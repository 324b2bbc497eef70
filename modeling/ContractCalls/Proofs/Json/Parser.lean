import ContractCalls.Json.Parser
import Mathlib.Tactic

/-!
# Reading JSON strings

A text that needs no escapes is read back from between its quotes.
-/

namespace ContractCalls.Json

/-- A character that stands for itself within a string. -/
def IsPlain (c : Char) : Prop :=
  0x20 ≤ c.toNat ∧ c ≠ '"' ∧ c ≠ '\\'

instance (c : Char) : Decidable (IsPlain c) :=
  inferInstanceAs (Decidable (0x20 ≤ c.toNat ∧ c ≠ '"' ∧ c ≠ '\\'))

namespace Parser

lemma stringRest_cons {c : Char} (hc : IsPlain c) (read rest : List Char) :
    stringRest read (c :: rest) = stringRest (c :: read) rest := by
  obtain ⟨hcontrol, hquote, hescape⟩ := hc
  rw [stringRest.eq_def]
  split
  · simp_all
  · simp_all
  · simp_all
  · next heq =>
    obtain ⟨rfl, rfl⟩ := List.cons.inj heq
    rw [if_neg (not_lt.mpr hcontrol)]
  · simp_all

lemma stringRest_append {cs : List Char} (hcs : ∀ c ∈ cs, IsPlain c) (read rest : List Char) :
    stringRest read (cs ++ '"' :: rest) = some (String.ofList (read.reverse ++ cs), rest) := by
  induction cs generalizing read with
  | nil => rw [List.nil_append, List.append_nil, stringRest]
  | cons c cs ih =>
    rw [List.forall_mem_cons] at hcs
    obtain ⟨hc, hcs⟩ := hcs
    rw [List.cons_append, stringRest_cons hc, ih hcs, List.reverse_cons, List.append_assoc,
      List.singleton_append]

end Parser

/-- A text of plain characters between quotes is the JSON string with this text. -/
theorem parse?_quoted {text : String} (h : ∀ c ∈ text.toList, IsPlain c) :
    parse? ("\"" ++ text ++ "\"") = some (string text) := by
  have hchars : ("\"" ++ text ++ "\"").toList = '"' :: (text.toList ++ ['"']) := by simp
  rw [parse?, parseWithin?, hchars]
  have hspace : Parser.skipSpace ('"' :: (text.toList ++ ['"'])) = '"' :: (text.toList ++ ['"']) :=
    rfl
  rw [hspace, Parser.value]
  · rw [Parser.scalar, Parser.stringRest_append h]
    simp [Parser.skipSpace]
  all_goals simp

end ContractCalls.Json
