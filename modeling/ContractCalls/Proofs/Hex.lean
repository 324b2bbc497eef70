import ContractCalls.Hex
import Mathlib.Tactic

/-!
# Reading hexadecimal text

A byte string is read back from its hexadecimal text, and only a text without digits is read as an
empty one.
-/

namespace ContractCalls.Hex

lemma digit?_digit : ∀ n < 16, digit? (digit n) = some n := by
  decide

lemma bytes?_digits (data : Bytes) : bytes? (digits data) = some data := by
  induction data with
  | nil => rfl
  | cons b data ih =>
    have hb : b.toNat < 256 := b.toNat_lt
    have hhigh : digit? (digit (b.toNat / 16)) = some (b.toNat / 16) := digit?_digit _ (by omega)
    have hlow : digit? (digit (b.toNat % 16)) = some (b.toNat % 16) := digit?_digit _ (by omega)
    have hvalue : UInt8.ofNat (16 * (b.toNat / 16) + b.toNat % 16) = b := by
      rw [Nat.div_add_mod, UInt8.ofNat_toNat]
    rw [digits, List.flatMap_cons, List.cons_append, List.cons_append, List.nil_append,
      bytes?, hhigh, hlow]
    simp only [Option.bind_eq_bind, Option.bind_some, hvalue]
    rw [← digits, ih]
    rfl

lemma toList_encode (data : Bytes) : (encode data).toList = '0' :: 'x' :: digits data := by
  simp [encode]

theorem decode?_encode (data : Bytes) : decode? (encode data) = some data := by
  rw [decode?, toList_encode]
  exact bytes?_digits data

/-- A digit is no character that a JSON string would escape. -/
lemma digit_plain : ∀ n < 16, 0x20 ≤ (digit n).toNat ∧ digit n ≠ '"' ∧ digit n ≠ '\\' := by
  decide

lemma bytes?_eq_some_nil_iff {cs : List Char} : bytes? cs = some [] ↔ cs = [] := by
  match cs with
  | [] => simp [bytes?]
  | [c] => simp [bytes?]
  | high :: low :: rest =>
    simp [bytes?, Option.bind_eq_some_iff]

lemma decode?_eq_some_nil_iff {text : String} :
    decode? text = some [] ↔ text ∈ ["", "0x", "0X"] := by
  have htext : text ∈ ["", "0x", "0X"] ↔ text.toList ∈ [[], ['0', 'x'], ['0', 'X']] := by
    have hinjective : Function.Injective String.toList := fun _ _ => String.toList_injective
    rw [← List.mem_map_of_injective hinjective]
    rfl
  rw [htext, decode?]
  split
  · next rest h => simp [bytes?_eq_some_nil_iff, h]
  · next rest h => simp [bytes?_eq_some_nil_iff, h]
  · next hlower hupper =>
    have hlower : text.toList ≠ ['0', 'x'] := hlower []
    have hupper : text.toList ≠ ['0', 'X'] := hupper []
    simp only [bytes?_eq_some_nil_iff, List.mem_cons, hlower, hupper, List.not_mem_nil, or_false]

end ContractCalls.Hex
