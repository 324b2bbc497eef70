import ContractCalls.Client
import ContractCalls.Inclusion
import ContractCalls.Signer

/-!
# Calls

A call of a contract together with the decoder of its result. Any call can be simulated; one that
writes can also be signed and sent as a transaction.
-/

namespace ContractCalls

/-- A call to be simulated. -/
structure ReadCall where
  request : CallRequest
  options : CallOptions := {}
  decoder : Decoder

/-- A call that may be sent, and what is made of its receipt. -/
structure WriteCall (ρ : Type) where
  call : ReadCall
  view : Receipt → ρ

inductive SendError where
  | contract (error : ContractError)
  | signer (error : SignerError)
  /-- The node left out something that a transaction needs. -/
  | incomplete (detail : String)
  deriving BEq, Repr, Inhabited

def SendError.message : SendError → String
  | contract error => error.message
  | signer error => error.message
  | incomplete detail => s!"transaction incomplete after fill: {detail}"

namespace Client

/-- A call with given calldata. -/
def rawCall (client : Client) (target : Address) (data : Bytes) (decoder : Decoder) : ReadCall :=
  { request := client.newRequest target data, decoder }

/-- A call of a function. -/
def functionCall (client : Client) (target : Address) (f : AbiFunction) (args : List AbiValue) :
    Except AbiError ReadCall := do
  return client.rawCall target (← f.encodeCall args) f.decoder

end Client

variable {σ : Type} [Node σ]

namespace ReadCall

/-- The values that a simulation with the given options returns. -/
def callWith (call : ReadCall) (client : Client) (options : CallOptions) :
    ContractM σ (List AbiValue) := do
  let data ← client.simulate call.request options
  MonadExcept.ofExcept (call.decoder data)

def call (call : ReadCall) (client : Client) : ContractM σ (List AbiValue) :=
  call.callWith client call.options

/-- The call with its values changed by a function that may refuse them. -/
def mapOutput (call : ReadCall) (f : List AbiValue → Except ContractError (List AbiValue)) :
    ReadCall :=
  { call with decoder := fun data => call.decoder data >>= f }

/-- The call as one that may be sent. -/
def toWrite (call : ReadCall) : WriteCall Receipt :=
  ⟨call, id⟩

def describe (call : ReadCall) : String :=
  Text.partialRecord "ReadCall"
    [("request", call.request.describe), ("options", call.options.describe)]

end ReadCall

/-- An action on a node that ends in a submitted transaction or an error. -/
abbrev SendM (σ α : Type) := ExceptT SendError (StateM σ) α

namespace WriteCall

variable {ρ : Type}

def mapReceipt {ρ' : Type} (call : WriteCall ρ) (view : Receipt → ρ') : WriteCall ρ' :=
  ⟨call.call, view⟩

/-- The signed transaction, if the call lacks nothing. The signer is the sender by default. -/
def sign (call : WriteCall ρ) (signer : Signer) : Except SendError (Option SignedTransaction) :=
  match call.call.request.unsigned with
  | none => .ok none
  | some tx =>
    match signer.sign { tx with sender := tx.sender.getD signer.address } with
    | .ok signed => .ok (some signed)
    | .error err => .error (.signer err)

/-- The signed transaction with the help of the node, which adds what is missing. -/
def fillAndSign (call : WriteCall ρ) (client : Client) (signer : Signer) :
    SendM σ SignedTransaction := do
  let request := call.call.request.withDefaultSender signer.address
  let filled ← (client.fill request).adapt SendError.contract
  match filled.unsigned with
  | none => throw (.incomplete filled.describeGaps)
  | some tx => MonadExcept.ofExcept ((signer.sign tx).mapError .signer)

/-- Signs and submits the call. -/
def send (call : WriteCall ρ) (client : Client) (signer : Signer) :
    SendM σ (PendingInclusion ρ) := do
  let signed ←
    match ← MonadExcept.ofExcept (call.sign signer) with
    | some signed => pure signed
    | none => call.fillAndSign client signer
  let hash ← (client.submit signed).adapt SendError.contract
  return { hash, config := client.config.inclusion, view := call.view }

def describe (call : WriteCall ρ) : String :=
  Text.partialRecord "ReadWriteCall"
    [("request", call.call.request.describe), ("options", call.call.options.describe)]

end WriteCall

end ContractCalls
