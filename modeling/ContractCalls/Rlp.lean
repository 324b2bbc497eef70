import ContractCalls.Bytes

/-!
# Recursive length prefixes

Byte strings and lists of items, each after a prefix with its length. A single byte below `80`
stands for itself.
-/

namespace ContractCalls

inductive Rlp where
  | bytes (data : Bytes)
  | list (items : List Rlp)

namespace Rlp

/-- A number is the byte string of its digits in base 256, without leading zeros. -/
def number (n : Nat) : Rlp :=
  bytes (Bytes.ofNatTrimmed n)

/-- The prefix of a string or list of a given length; short lengths are added to the tag. -/
def lengthPrefix (tag length : Nat) : Bytes :=
  if length < 56 then [UInt8.ofNat (tag + length)]
  else
    let digits := Bytes.ofNatTrimmed length
    UInt8.ofNat (tag + 55 + digits.length) :: digits

mutual

def encode : Rlp → Bytes
  | bytes [b] => if b < 0x80 then [b] else lengthPrefix 0x80 1 ++ [b]
  | bytes data => lengthPrefix 0x80 data.length ++ data
  | list items =>
    let body := encodeAll items
    lengthPrefix 0xc0 body.length ++ body

def encodeAll : List Rlp → Bytes
  | [] => []
  | item :: items => encode item ++ encodeAll items

end

end Rlp

end ContractCalls
