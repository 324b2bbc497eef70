import ContractCalls.Abi.Layout
import ContractCalls.Abi.Typing

/-!
# Encoding

The bytes of values of given types. Values are checked against the types first.
-/

namespace ContractCalls.Abi

mutual

/-- The encoding of one value, as it stands in a head or a tail. -/
def encodeValue : AbiValue → AbiType → Bytes
  | .address account, _ => Bytes.ofBitVec (account.setWidth 256)
  | .bool flag, _ => Bytes.ofNat 32 flag.toNat
  | .uint value _, _ | .int value _, _ => Bytes.ofBitVec value
  | .fixedBytes word _, _ => Bytes.ofBitVec word
  | .bytes data, _ => Bytes.ofNat 32 data.length ++ data.padRight
  | .string text, _ =>
    Bytes.ofNat 32 (Bytes.ofText text).length ++ (Bytes.ofText text).padRight
  | .array elems, .array elem => Bytes.ofNat 32 elems.length ++ layOut (elemFields elems elem)
  | .fixedArray elems, .fixedArray elem _ => layOut (elemFields elems elem)
  | .tuple values, .tuple types
  | .tuple values, .struct _ types
  | .struct _ values, .struct _ types => layOut (fields values types)
  | _, _ => []

/-- The elements of an array as fields. -/
def elemFields : List AbiValue → AbiType → List Field
  | [], _ => []
  | v :: vs, type => ⟨type.isDynamic, type.headSize, encodeValue v type⟩ :: elemFields vs type

/-- Values as fields of the types at their places. -/
def fields : List AbiValue → List AbiType → List Field
  | v :: vs, t :: ts => ⟨t.isDynamic, t.headSize, encodeValue v t⟩ :: fields vs ts
  | _, _ => []

end

/-- The encoding of values as arguments or results of the given types. -/
def encode (values : List AbiValue) (types : List AbiType) : Except AbiError Bytes := do
  AbiValue.checkTypes values types
  return layOut (fields values types)

def encodeSingle (value : AbiValue) (type : AbiType) : Except AbiError Bytes :=
  encode [value] [type]

end ContractCalls.Abi
