import ContractCalls.Abi.Type

/-!
# Values

The values of arguments and results. Integers are 256-bit words with the width of their type, signed
ones in two's complement. A value of type `bytesN` is a whole word, filled from the left.
-/

namespace ContractCalls

inductive AbiValue where
  | address (account : Address)
  | bool (flag : Bool)
  | uint (value : Word) (bits : Nat)
  | int (value : Word) (bits : Nat)
  | fixedBytes (word : Word) (size : Nat)
  | bytes (data : Bytes)
  | string (text : String)
  | array (elems : List AbiValue)
  | fixedArray (elems : List AbiValue)
  | tuple (fields : List AbiValue)
  | struct (name : String) (fields : List AbiValue)
  deriving BEq, Repr, Inhabited

namespace AbiValue

def ofAddress (account : Address) : AbiValue := address account
def ofBool (flag : Bool) : AbiValue := bool flag
def ofUint256 (value : Word) : AbiValue := uint value 256
def ofInt256 (value : Word) : AbiValue := int value 256
def ofWord (word : Word) : AbiValue := fixedBytes word 32
def ofBytes (data : Bytes) : AbiValue := bytes data
def ofString (text : String) : AbiValue := string text

/-- An unsigned integer of the full width; a larger number is cut to 256 bits. -/
def ofNat (n : Nat) : AbiValue := uint (.ofNat 256 n) 256

/-- The word with the given bytes on the left and zeros on the right. -/
def leftAligned (data : Bytes) : Word :=
  Bytes.toBitVec 256 ((data ++ Bytes.zeros 32).take 32)

/-- A `bytesN` value of as many bytes as are given, at most 32. -/
def ofFixedBytes (data : Bytes) : AbiValue :=
  fixedBytes (leftAligned data) (min data.length 32)

/-- The sort of a value, as it is named in errors. -/
def kind : AbiValue → String
  | address _ => "address"
  | bool _ => "bool"
  | uint .. => "uint"
  | int .. => "int"
  | fixedBytes .. => "fixed bytes"
  | bytes _ => "bytes"
  | string _ => "string"
  | array _ => "array"
  | fixedArray _ => "fixed array"
  | tuple _ => "tuple"
  | struct .. => "struct"

def address? : AbiValue → Option Address
  | address account => some account
  | _ => none

def bool? : AbiValue → Option Bool
  | bool flag => some flag
  | _ => none

def uint? : AbiValue → Option Word
  | uint value _ => some value
  | _ => none

def int? : AbiValue → Option Word
  | int value _ => some value
  | _ => none

/-- The bytes of a byte string, or the declared bytes of a `bytesN` word. -/
def bytes? : AbiValue → Option Bytes
  | bytes data => some data
  | fixedBytes word size => some ((Bytes.ofBitVec word).take size)
  | _ => none

def string? : AbiValue → Option String
  | string text => some text
  | _ => none

/-- The components of an array, a tuple or a struct. -/
def elems? : AbiValue → Option (List AbiValue)
  | array elems | fixedArray elems | tuple elems | struct _ elems => some elems
  | _ => none

end AbiValue

end ContractCalls
