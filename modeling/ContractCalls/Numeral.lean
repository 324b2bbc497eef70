import ContractCalls.Hex

/-!
# Numerals

Numbers in text: digits of base 16, 8 or 2 after `0x`, `0o` or `0b`, and decimal digits otherwise.
Underscores may stand anywhere among the digits, and no digits at all are zero.
-/

namespace ContractCalls.Numeral

/-- The value of digits of a base up to 16. -/
def value? (base : Nat) (digits : List Char) : Option Nat :=
  (digits.filter (· != '_')).foldlM (fun n c => do
    let d ← Hex.digit? c
    if d < base then return base * n + d else none) 0

def parse? (text : String) : Option Nat :=
  match text.toList with
  | '0' :: 'x' :: digits | '0' :: 'X' :: digits => value? 16 digits
  | '0' :: 'o' :: digits | '0' :: 'O' :: digits => value? 8 digits
  | '0' :: 'b' :: digits | '0' :: 'B' :: digits => value? 2 digits
  | digits => value? 10 digits

example : parse? "0X1f" = some 31 ∧ parse? "1_000" = some 1000 ∧ parse? "0b2" = none := by
  decide +kernel

end ContractCalls.Numeral
