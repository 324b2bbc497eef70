import ContractCalls.Abi.Decoding
import ContractCalls.Crypto.Keccak
import ContractCalls.Signature.Resolution

/-!
# Functions

A contract function with the types of its arguments and results. Calldata are the selector followed
by the encoded arguments.
-/

namespace ContractCalls

/-- The first four bytes of the digest of a text. -/
def Selector.ofText (text : String) : Selector :=
  Bytes.toBitVec 32 ((Keccak.digest (Bytes.ofText text)).take 4)

namespace Signature

/-- The canonical text of a name with parameter types. -/
def canonical (name : String) (inputs : List AbiType) : String :=
  s!"{name}({AbiType.listText inputs})"

/-- The types of parameters, each read from its canonical text. -/
def parameterTypes (specs : List TypeSpec) : Except AbiError (List AbiType) :=
  specs.mapM fun spec => AbiType.parse spec.text

/-- The text of a signature without blanks at its ends and without a keyword in front. -/
def body (keyword text : String) : List Char :=
  let s := Text.trim text.toList
  match word? keyword s with
  | some (c :: rest) => if Text.isBlank c then Text.trimFront rest else s
  | _ => s

end Signature

structure AbiFunction where
  name : String
  inputs : List AbiType
  outputs : List AbiType
  deriving BEq, Repr, Inhabited

namespace AbiFunction

/-- Reads a function from its signature. -/
def parse (text : String) : Except AbiError AbiFunction := do
  match Signature.declaration true (Signature.body "function" text) with
  | none => throw (.malformed text)
  | some decl =>
    if decl.isAnonymous then throw (.invalidType s!"{text}: functions cannot be anonymous")
    let inputs ← Signature.parameterTypes decl.inputs
    let outputs ← Signature.parameterTypes decl.outputs
    return { name := decl.name, inputs, outputs }

/-- The canonical signature, which has no results. -/
def signature (f : AbiFunction) : String :=
  Signature.canonical f.name f.inputs

def selector (f : AbiFunction) : Selector :=
  .ofText f.signature

/-- The canonical signature and the results. -/
def text (f : AbiFunction) : String :=
  if f.outputs.isEmpty then f.signature
  else s!"{f.signature} returns ({AbiType.listText f.outputs})"

def encodeCall (f : AbiFunction) (args : List AbiValue) : Except AbiError Bytes := do
  return Bytes.ofBitVec f.selector ++ (← Abi.encode args f.inputs)

def decodeOutput (f : AbiFunction) (data : Bytes) : Except AbiError (List AbiValue) :=
  Abi.decode data f.outputs

/-- Reads the arguments from calldata of this function. -/
def decodeInput (f : AbiFunction) (calldata : Bytes) : Except AbiError (List AbiValue) :=
  if calldata.length < 4 then .error (.bufferOverrun 0 4 calldata.length)
  else
    let found := Bytes.toBitVec 32 (calldata.take 4)
    if found = f.selector then Abi.decode (calldata.drop 4) f.inputs
    else .error (.selectorMismatch f.selector found)

end AbiFunction

end ContractCalls
