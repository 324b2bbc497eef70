import ContractCalls.Abi.Encoding

/-!
# Decoding

Values read back from bytes. Data after the last field is ignored, and offsets may point anywhere in
the buffer, so a byte string can differ from the encoding of the values that it holds.
-/

namespace ContractCalls.Abi

/-- An accepted value. -/
def accept (value : AbiValue) (type : AbiType) : Except AbiError AbiValue := do
  value.checkType type
  return value

/-- A length and as many bytes after it. -/
def readBytes (data : Bytes) : Except AbiError Bytes := do
  readSlice data 32 (← readSize data 0)

mutual

/-- The value at the start of the data. -/
def decodeValue : AbiType → Bytes → Except AbiError AbiValue
  | .address, data => do
    let word ← readWord data 0
    if word >>> 160 = 0 then return .address (word.setWidth 160)
    else throw (.valueOutOfRange AbiType.address.text)
  | .bool, data => do
    let word ← readWord data 0
    if word.toNat ≤ 1 then return .bool (word.toNat == 1) else throw (.invalidBool word)
  | .uint bits, data => do accept (.uint (← readWord data 0) bits) (.uint bits)
  | .int bits, data => do accept (.int (← readWord data 0) bits) (.int bits)
  | .fixedBytes size, data => do
    let word ← readWord data 0
    if word.setWidth (8 * (32 - size)) = 0 then return .fixedBytes word size
    else throw (.valueOutOfRange (AbiType.fixedBytes size).text)
  | .bytes, data => do return .bytes (← readBytes data)
  | .string, data => do
    match (← readBytes data).text? with
    | some text => return .string text
    | none => throw .invalidUtf8
  | .array elem, data => do
    let count ← readSize data 0
    let body := data.drop 32
    let needed := Size.saturate (count * elem.headSize)
    if needed > body.length then throw (.bufferOverrun 32 needed body.length)
    let reader := ⟨elem.isDynamic, elem.headSize, decodeValue elem⟩
    return .array (← readFields (List.replicate count reader) body 0)
  | .fixedArray elem length, data => do
    let needed := Size.saturate (length.toNat * max elem.headSize 1)
    if needed > data.length then throw (.bufferOverrun 0 needed data.length)
    let reader := ⟨elem.isDynamic, elem.headSize, decodeValue elem⟩
    return .fixedArray (← readFields (List.replicate length.toNat reader) data 0)
  | .tuple types, data => do return .tuple (← readFields (readers types) data 0)
  | .struct name types, data => do return .struct name (← readFields (readers types) data 0)

/-- The readers for fields of the given types. -/
def readers : List AbiType → List (FieldReader AbiValue)
  | [] => []
  | t :: ts => ⟨t.isDynamic, t.headSize, decodeValue t⟩ :: readers ts

end

/-- Values of the given types, one after the other. -/
def decode (data : Bytes) (types : List AbiType) : Except AbiError (List AbiValue) :=
  readFields (readers types) data 0

def decodeSingle (data : Bytes) (type : AbiType) : Except AbiError AbiValue := do
  match (← decode data [type]).getLast? with
  | some value => return value
  | none => throw (.lengthMismatch 1 0)

/-- The data are exactly the encoding of the values. -/
def isCanonical (data : Bytes) (values : List AbiValue) (types : List AbiType) : Bool :=
  match encode values types with
  | .ok bytes => bytes == data
  | .error _ => false

end ContractCalls.Abi
