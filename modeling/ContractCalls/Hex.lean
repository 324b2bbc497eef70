import ContractCalls.Bytes

/-!
# Hexadecimal text

Byte strings are written as `0x` and two lower-case digits a byte, quantities as `0x` and the fewest
digits. Reading takes digits and the `x` of byte strings in either case, and the leading `0x` of a
byte string may be missing.
-/

namespace ContractCalls.Hex

def digit (n : Nat) : Char :=
  if n < 10 then Char.ofNat (48 + n) else Char.ofNat (87 + n)

def digit? (c : Char) : Option Nat :=
  if '0' ≤ c ∧ c ≤ '9' then some (c.toNat - 48)
  else if 'a' ≤ c ∧ c ≤ 'f' then some (c.toNat - 87)
  else if 'A' ≤ c ∧ c ≤ 'F' then some (c.toNat - 55)
  else none

def digits (data : Bytes) : List Char :=
  data.flatMap fun b => [digit (b.toNat / 16), digit (b.toNat % 16)]

/-- Two digits for each byte, after `0x`. -/
def encode (data : Bytes) : String :=
  "0x" ++ String.ofList (digits data)

/-- All bytes of a word, leading zeros included. -/
def ofBitVec {w : Nat} (x : BitVec w) : String :=
  encode (Bytes.ofBitVec x)

/-- The fewest digits, `0x0` for zero. -/
def quantity (n : Nat) : String :=
  "0x" ++ String.ofList (Nat.toDigits 16 n)

def bytes? : List Char → Option Bytes
  | [] => some []
  | [_] => none
  | high :: low :: rest => do
    let h ← digit? high
    let l ← digit? low
    let data ← bytes? rest
    return UInt8.ofNat (16 * h + l) :: data

/-- Reads an even number of digits, after an optional `0x`. -/
def decode? (text : String) : Option Bytes :=
  match text.toList with
  | '0' :: 'x' :: rest | '0' :: 'X' :: rest => bytes? rest
  | rest => bytes? rest

/-- Reads a word of exactly `w / 8` bytes. -/
def bitVec? (w : Nat) (text : String) : Option (BitVec w) := do
  let data ← decode? text
  if data.length = w / 8 then return data.toBitVec w else none

end ContractCalls.Hex
