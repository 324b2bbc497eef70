import ContractCalls.Function
import ContractCalls.Revert

/-!
# The error registry

The custom errors that a client knows, by selector. The first definition with a selector stays.
Revert data are read as a known custom error, as a standard `Error(string)` or `Panic(uint256)`, or
else shown as they are.
-/

namespace ContractCalls

/-- The declaration of a custom error, and how its fields become an error. The selector is that of
the signature, unless another one is given. -/
structure ErrorDefinition where
  name : String
  inputs : List AbiType
  selector : Selector := .ofText (Signature.canonical name inputs)
  build : String → Selector → List AbiValue → CustomError := CustomError.mk

namespace ErrorDefinition

/-- Reads a definition from the signature of an error. -/
def parse (text : String) : Except AbiError ErrorDefinition := do
  match Signature.declaration false (Signature.body "error" text) with
  | none => throw (.malformed text)
  | some decl =>
    if decl.isAnonymous then throw (.invalidType s!"{text}: errors cannot be anonymous")
    if decl.hasMutability then throw (.invalidType s!"{text}: errors cannot have mutability")
    return { name := decl.name, inputs := ← Signature.parameterTypes decl.inputs }

/-- The error with the given fields, which follow its selector in revert data. -/
def decode (d : ErrorDefinition) (data : Bytes) : Except AbiError CustomError := do
  return d.build d.name d.selector (← Abi.decode data d.inputs)

def describe (d : ErrorDefinition) : String :=
  Text.record "CustomErrorFactory"
    [("name", Text.quoted d.name), ("selector", Hex.ofBitVec d.selector),
      ("inputs", Text.bracketed (AbiType.describeAll d.inputs))]

end ErrorDefinition

/-- Definitions with different selectors, in the order of their registration. -/
structure ErrorRegistry where
  definitions : List ErrorDefinition := []

namespace ErrorRegistry

def lookup (r : ErrorRegistry) (selector : Selector) : Option ErrorDefinition :=
  r.definitions.find? (·.selector == selector)

def size (r : ErrorRegistry) : Nat :=
  r.definitions.length

/-- Adds a definition unless there is one with its selector, and says whether it was added. -/
def register (r : ErrorRegistry) (d : ErrorDefinition) : ErrorRegistry × Bool :=
  if (r.lookup d.selector).isSome then (r, false) else (⟨r.definitions ++ [d]⟩, true)

/-- Adds the definition with a signature, and answers its selector. -/
def registerSignature (r : ErrorRegistry) (text : String) :
    ErrorRegistry × Except AbiError Selector :=
  match ErrorDefinition.parse text with
  | .ok d => ((r.register d).1, .ok d.selector)
  | .error err => (r, .error err)

/-- The registry of definitions in the given order. -/
def ofDefinitions (ds : List ErrorDefinition) : ErrorRegistry :=
  ds.foldl (fun r d => (r.register d).1) {}

/-- The registry of those signatures that can be read. -/
def ofSignatures (texts : List String) : ErrorRegistry :=
  texts.foldl (fun r text => (r.registerSignature text).1) {}

/-- The selector of `Error(string)`. -/
def stringSelector : Selector := 0x08c379a0

/-- The selector of `Panic(uint256)`. -/
def panicSelector : Selector := 0x4e487b71

/-- Revert data of no known form. -/
def hexRevert (data : Bytes) : ContractError :=
  .revert (Hex.encode data)

/-- The error that revert data stand for. -/
def decodeRevert (r : ErrorRegistry) (data : Bytes) : ContractError :=
  if data.length < 4 then hexRevert data
  else
    let selector := Bytes.toBitVec 32 (data.take 4)
    let body := data.drop 4
    match r.lookup selector with
    | some d =>
      match d.decode body with
      | .ok error => .custom error
      | .error err => .ofAbi data err
    | none =>
      if selector = stringSelector then
        match Abi.decode body [.string] with
        | .ok [.string reason] => .revert reason
        | _ => hexRevert data
      else if selector = panicSelector then
        match Abi.decode body [.uint 256] with
        | .ok [.uint code _] => .panic code
        | _ => hexRevert data
      else hexRevert data

/-- The contract error that an error of the node stands for. -/
def translate (r : ErrorRegistry) (error : RpcError) : ContractError :=
  match error with
  | .response payload =>
    match payload.bytes? with
    | some data => r.decodeRevert data
    | none =>
      if (ErrorKind.ofMessage payload.message).isRevert then .revert payload.message
      else .provider error
  | _ => .provider error

end ErrorRegistry

/-- The revert data of `Error(string)` with a reason. -/
def errorString (reason : String) : Bytes :=
  Bytes.ofBitVec ErrorRegistry.stringSelector ++
    Abi.layOut (Abi.fields [.string reason] [.string])

/-- The decoder of the results of a function. -/
def AbiFunction.decoder (f : AbiFunction) : Decoder := fun data =>
  (f.decodeOutput data).mapError (.ofAbi data)

end ContractCalls
