import ContractCalls.Abi.Description
import ContractCalls.Rpc.Error

/-!
# Contract errors

Why a contract call has no result: the contract reverted, its answer could not be read, the node
failed, or the call was never made.
-/

namespace ContractCalls

open Text

/-- An error that a contract declares, with the values of its fields. -/
structure CustomError where
  name : String
  selector : Selector
  fields : List AbiValue
  deriving BEq, Repr, Inhabited

def CustomError.text (error : CustomError) : String :=
  error.name ++ "(" ++ ", ".intercalate (AbiValue.describeAll error.fields) ++ ")"

inductive ContractError where
  | revert (reason : String)
  | panic (code : Word)
  | custom (error : CustomError)
  /-- Data that do not decode, with the error of the codec if it was the codec that refused them. -/
  | decoding (data : Bytes) (detail : String) (cause : Option AbiError)
  | provider (error : RpcError)
  | notExecuted
  deriving BEq, Repr, Inhabited

/-- The reason of a panic, by its code. -/
def panicReason (code : Word) : String :=
  match code.toNat with
  | 0x00 => "generic/unspecified error"
  | 0x01 => "assertion failed"
  | 0x11 => "arithmetic underflow or overflow"
  | 0x12 => "division or modulo by zero"
  | 0x21 => "failed to convert value into enum type"
  | 0x22 => "storage byte array incorrectly encoded"
  | 0x31 => "called `.pop()` on an empty array"
  | 0x32 => "array out-of-bounds access"
  | 0x41 => "memory allocation error"
  | 0x51 => "called an invalid internal function"
  | _ => "unknown panic code"

namespace ContractError

def message : ContractError → String
  | revert reason => s!"execution reverted: {reason}"
  | panic code => s!"execution panicked: {panicReason code} ({Hex.quantity code.toNat})"
  | custom error => error.text
  | decoding data detail _ => s!"failed to decode {Hex.encode data}: {detail}"
  | provider error => error.text
  | notExecuted => "call was never executed: owning aggregate was not sent"

/-- Data that the codec refused. -/
def ofAbi (data : Bytes) (error : AbiError) : ContractError :=
  decoding data error.message (some error)

end ContractError

/-- The outcome of reading the values of an answer. -/
abbrev Decoder := Bytes → Except ContractError (List AbiValue)

end ContractCalls
