import ContractCalls.Abi.Value

/-!
# Typing

When a value may stand for a type. Integers are checked by their number and not by the width they
declare, `bytesN` values by the length they declare, and a tuple may stand for a struct.
-/

namespace ContractCalls.AbiValue

/-- The number fits the unsigned width. -/
def fitsUint (value : Word) (bits : Nat) : Bool :=
  bits ≥ 256 || value >>> bits == 0

/-- All bits from the sign bit of the width upwards agree. A width of zero has no sign bit and
refuses nothing. -/
def fitsInt (value : Word) (bits : Nat) : Bool :=
  bits = 0 || bits ≥ 256 || value.sshiftRight (bits - 1) == 0 || value.sshiftRight (bits - 1) == -1

mutual

/-- Accepts a value for a type. -/
def checkType : AbiValue → AbiType → Except AbiError Unit
  | address _, .address | bool _, .bool | bytes _, .bytes | string _, .string => .ok ()
  | uint value _, .uint bits =>
    if fitsUint value bits then .ok () else .error (.valueOutOfRange (AbiType.uint bits).text)
  | int value _, .int bits =>
    if fitsInt value bits then .ok () else .error (.valueOutOfRange (AbiType.int bits).text)
  | fixedBytes _ size, .fixedBytes expected =>
    if size ≤ expected then .ok ()
    else .error (.typeMismatch (AbiType.fixedBytes expected).text "fixed bytes")
  | array elems, .array elem => checkEach elems elem
  | fixedArray elems, .fixedArray elem length =>
    if elems.length = length.toNat then checkEach elems elem
    else .error (.lengthMismatch length.toNat elems.length)
  | tuple values, .tuple types | tuple values, .struct _ types | struct _ values, .struct _ types =>
    if values.length = types.length then checkPairs values types
    else .error (.lengthMismatch types.length values.length)
  | value, type => .error (.typeMismatch type.text value.kind)

/-- Accepts every value for the same type. -/
def checkEach : List AbiValue → AbiType → Except AbiError Unit
  | [], _ => .ok ()
  | v :: vs, type => do v.checkType type; checkEach vs type

/-- Accepts each value for the type at its place. -/
def checkPairs : List AbiValue → List AbiType → Except AbiError Unit
  | v :: vs, t :: ts => do v.checkType t; checkPairs vs ts
  | _, _ => .ok ()

end

/-- Accepts a list of values for a list of types of the same length. -/
def checkTypes (values : List AbiValue) (types : List AbiType) : Except AbiError Unit :=
  if values.length = types.length then checkPairs values types
  else .error (.lengthMismatch types.length values.length)

end ContractCalls.AbiValue
