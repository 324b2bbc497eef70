import ContractCalls.Abi.Value
import ContractCalls.Text.Description

/-!
# Descriptions of types and values
-/

namespace ContractCalls

open Text

namespace AbiType

mutual

/-- The description of a type, which shows the layout of its composites. -/
def describe : AbiType → String
  | address => "Address"
  | bool => "Bool"
  | uint bits => applied "Uint" [toString bits]
  | int bits => applied "Int" [toString bits]
  | fixedBytes size => applied "FixedBytes" [toString size]
  | bytes => "Bytes"
  | string => "String"
  | array elem => applied "Array" [elem.describe]
  | fixedArray elem length =>
    applied "FixedArray" [record "FixedArrayType"
      [("elem", elem.describe), ("len", toString length.toNat),
        ("dynamic", toString (fixedArray elem length).isDynamic)]]
  | tuple fields => applied "Tuple" [tupleRecord fields (describeAll fields)]
  | struct name fields =>
    applied "Struct" [record "StructType"
      [("name", quoted name), ("tuple", tupleRecord fields (describeAll fields))]]
where
  /-- The layout of fields with the given descriptions. -/
  tupleRecord (fields : List AbiType) (texts : List String) : String :=
    record "TupleType"
      [("fields", bracketed texts), ("dynamic", toString (anyDynamic fields)),
        ("static_size", toString (headSizes fields))]

def describeAll : List AbiType → List String
  | [] => []
  | t :: ts => t.describe :: describeAll ts

end

end AbiType

namespace AbiValue

mutual

/-- The description of a value by its constructor. -/
def describe : AbiValue → String
  | address account => applied "Address" [Hex.ofBitVec account]
  | bool flag => applied "Bool" [toString flag]
  | uint value bits => applied "Uint" [toString value.toNat, toString bits]
  | int value bits => applied "Int" [toString value.toInt, toString bits]
  | fixedBytes word size => applied "FixedBytes" [Hex.ofBitVec word, toString size]
  | bytes data => applied "Bytes" [Hex.encode data]
  | string text => applied "String" [quoted text]
  | array elems => applied "Array" [bracketed (describeAll elems)]
  | fixedArray elems => applied "FixedArray" [bracketed (describeAll elems)]
  | tuple fields => applied "Tuple" [bracketed (describeAll fields)]
  | struct name fields =>
    applied "Struct" [record "ContractStruct"
      [("name", quoted name), ("fields", bracketed (describeAll fields))]]

def describeAll : List AbiValue → List String
  | [] => []
  | v :: vs => v.describe :: describeAll vs

end

end AbiValue

end ContractCalls
