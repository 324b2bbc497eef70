import ContractCalls.Hex

/-!
# Errors of the type language and the codec

Types are named by their canonical text.
-/

namespace ContractCalls

inductive AbiError where
  /-- A read of `needed` bytes at `offset` runs past the `available` ones. -/
  | bufferOverrun (offset needed available : Nat)
  /-- An offset, length or count word beyond the end of its buffer. -/
  | invalidLength (word : Word)
  /-- A word other than zero and one where a flag is expected. -/
  | invalidBool (word : Word)
  | invalidUtf8
  | typeMismatch (expected found : String)
  | lengthMismatch (expected found : Nat)
  | valueOutOfRange (type : String)
  | invalidType (text : String)
  /-- A text that the grammar of types or signatures does not admit. -/
  | malformed (text : String)
  | selectorMismatch (expected found : Selector)
  deriving DecidableEq, Repr, Inhabited

/-- The text of an error. -/
def AbiError.message : AbiError → String
  | .bufferOverrun offset needed available =>
    s!"buffer overrun: need {needed} bytes at offset {offset}, have {available}"
  | .invalidLength word => s!"invalid offset or length word {Hex.quantity word.toNat}"
  | .invalidBool word => s!"invalid bool encoding {Hex.ofBitVec word}"
  | .invalidUtf8 => "string is not valid utf-8"
  | .typeMismatch expected found => s!"type mismatch: expected {expected}, found {found}"
  | .lengthMismatch expected found =>
    s!"length mismatch: expected {expected} values, found {found}"
  | .valueOutOfRange type => s!"value out of range for {type}"
  | .invalidType text => s!"invalid type `{text}`"
  | .malformed text => s!"invalid type `{text}: parser error:"
  | .selectorMismatch expected found =>
    s!"selector mismatch: expected {Hex.ofBitVec expected}, found {Hex.ofBitVec found}"

end ContractCalls
