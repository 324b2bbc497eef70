import ContractCalls.Signature.Resolution
import Mathlib.Tactic

/-!
# Words and numbers

A name is read up to the first character that cannot be in one, and a number or an array size is
read back from its decimal digits. Texts without blanks at their ends are not trimmed.
-/

namespace ContractCalls

/-! ### Blanks -/

namespace Text

lemma trimFront_eq_self {s : List Char} (h : ∀ c ∈ s.head?, isBlank c = false) :
    trimFront s = s := by
  cases s with
  | nil => rfl
  | cons c cs =>
    rw [trimFront, List.dropWhile_cons_of_neg]
    rw [h c rfl]
    exact Bool.false_ne_true

lemma trim_eq_self {s : List Char} (hhead : ∀ c ∈ s.head?, isBlank c = false)
    (hlast : ∀ c ∈ s.getLast?, isBlank c = false) : trim s = s := by
  rw [trim, trimFront_eq_self hhead, trimFront_eq_self (by rwa [List.head?_reverse]),
    List.reverse_reverse]

end Text

namespace Signature

/-! ### Names -/

/-- Blanks lie outside of the ranges of letters and digits. -/
lemma isBlank_of_isNameRest {c : Char} (h : isNameRest c = true) : Text.isBlank c = false := by
  have hrange : c.toNat = 36 ∨ (48 ≤ c.toNat ∧ c.toNat ≤ 57) ∨ (65 ≤ c.toNat ∧ c.toNat ≤ 90) ∨
      c.toNat = 95 ∨ (97 ≤ c.toNat ∧ c.toNat ≤ 122) := by
    delta isNameRest isNameStart Char.isAlpha Char.isUpper Char.isLower Char.isDigit at h
    simp only [Bool.or_eq_true, Bool.and_eq_true, decide_eq_true_eq, beq_iff_eq, ge_iff_le,
      UInt32.le_iff_toNat_le] at h
    rcases h with (((h | h) | rfl) | rfl) | h
    · exact .inr (.inr (.inl h))
    · exact .inr (.inr (.inr (.inr h)))
    · exact .inl rfl
    · exact .inr (.inr (.inr (.inl rfl)))
    · exact .inr (.inl h)
  simp only [Text.isBlank, Bool.or_eq_false_iff, Bool.and_eq_false_iff, decide_eq_false_iff_not,
    beq_eq_false_iff_ne]
  omega

/-- A name as the grammar has it. -/
structure IsName (name : String) : Prop where
  isNameStart : name.toList.head?.any isNameStart = true
  isNameRest : ∀ c ∈ name.toList, isNameRest c = true

/-- A name that stands for itself: an integer has its width. -/
structure IsRootName (name : String) : Prop extends IsName name where
  ne_uint : name ≠ "uint"
  ne_int : name ≠ "int"

instance (name : String) : Decidable (IsName name) :=
  decidable_of_iff (name.toList.head?.any Signature.isNameStart = true ∧
    name.toList.all Signature.isNameRest = true)
    ⟨fun h => ⟨h.1, List.all_eq_true.mp h.2⟩,
      fun h => ⟨h.isNameStart, List.all_eq_true.mpr h.isNameRest⟩⟩

instance (name : String) : Decidable (IsRootName name) :=
  decidable_of_iff (IsName name ∧ name ≠ "uint" ∧ name ≠ "int")
    ⟨fun h => ⟨h.1, h.2.1, h.2.2⟩, fun h => ⟨h.toIsName, h.ne_uint, h.ne_int⟩⟩

lemma IsName.exists_toList {name : String} (h : IsName name) :
    ∃ c cs, name.toList = c :: cs ∧ Signature.isNameStart c = true := by
  have hstart := h.isNameStart
  cases hchars : name.toList with
  | nil => simp [hchars] at hstart
  | cons c cs => exact ⟨c, cs, rfl, by simpa [hchars] using hstart⟩

/-- The text does not go on with a character of a name. -/
def EndsName (rest : List Char) : Prop :=
  ∀ c ∈ rest.head?, isNameRest c = false

lemma name_append {s : String} (hname : IsName s) {rest : List Char} (hrest : EndsName rest) :
    name (s.toList ++ rest) = some (s, rest) := by
  have hall := hname.isNameRest
  obtain ⟨c, cs, hs, hstart⟩ := hname.exists_toList
  rw [hs, List.forall_mem_cons] at hall
  have htail : rest.takeWhile isNameRest = [] ∧ rest.dropWhile isNameRest = rest := by
    cases rest with
    | nil => simp
    | cons d rest => simp [hrest d rfl]
  rw [hs, List.cons_append, name, if_pos hstart, List.takeWhile_append_of_pos hall.2,
    List.dropWhile_append_of_pos hall.2, htail.1, htail.2, List.append_nil, ← hs,
    String.ofList_toList]

lemma isName_of_name {s rest : List Char} {word : String} (h : name s = some (word, rest)) :
    IsName word := by
  cases s with
  | nil => cases h
  | cons c cs =>
    rw [name] at h
    split at h
    · next hc =>
      obtain ⟨rfl, -⟩ := Prod.mk.inj (Option.some.inj h)
      constructor
      · rw [String.toList_ofList, List.head?_cons, Option.any_some, hc]
      · rw [String.toList_ofList, List.forall_mem_cons]
        exact ⟨by rw [isNameRest, hc, Bool.true_or],
          fun d hd => List.all_eq_true.mp List.all_takeWhile d hd⟩
    · cases h

/-- A text starts with one name only. -/
lemma rest_eq_of_name_append {a b : String} (ha : IsName a) (hb : IsName b) {rest rest' : List Char}
    (hrest : EndsName rest) (hrest' : EndsName rest') (h : a.toList ++ rest = b.toList ++ rest') :
    rest = rest' := by
  have hread := name_append ha hrest
  rw [h, name_append hb hrest'] at hread
  exact (Prod.mk.inj (Option.some.inj hread)).2.symm

lemma rootName_append {s : String} (hs : IsRootName s) {rest : List Char} (hrest : EndsName rest)
    (hdot : ∀ c ∈ rest.head?, c ≠ '.') : rootName (s.toList ++ rest) = some (s, rest) := by
  rw [rootName, name_append hs.toIsName hrest]
  simp only [Option.bind_eq_bind, Option.bind_some, hs.ne_uint, hs.ne_int, if_false]
  split
  · exact absurd rfl (hdot '.' rfl)
  · rfl

/-- Enumerations and integers without a width get the names of their types. -/
lemma isRootName_of_rootName {s rest : List Char} {word : String}
    (h : rootName s = some (word, rest)) : IsRootName word := by
  obtain ⟨⟨first, after⟩, hname, h⟩ := Option.bind_eq_some_iff.mp h
  have hfirst := isName_of_name hname
  dsimp only at h
  split at h
  · have hword : word = "uint8" := by
      split at h
      all_goals exact (Prod.mk.inj (Option.some.inj h)).1.symm
    rw [hword]
    decide +kernel
  · obtain ⟨rfl, -⟩ := Prod.mk.inj (Option.some.inj h)
    split
    · decide +kernel
    · split
      · decide +kernel
      · exact ⟨hfirst, ‹_›, ‹_›⟩

lemma word?_eq_some_iff {word : String} {s rest : List Char} :
    word? word s = some rest ↔ s = word.toList ++ rest := by
  rw [word?]
  split
  · next hword =>
    obtain ⟨after, rfl⟩ := List.isPrefixOf_iff_prefix.mp hword
    rw [← String.length_toList, List.drop_left, Option.some.injEq, List.append_cancel_left_eq]
  · next hword =>
    refine iff_of_false nofun ?_
    rintro rfl
    exact hword (List.isPrefixOf_iff_prefix.mpr (List.prefix_append _ _))

/-! ### Numbers -/

/-- A text within a text stands there as it is. -/
@[simp]
lemma toString_text (text : String) : toString text = text :=
  rfl

lemma foldl_toDigits (n : Nat) :
    (Nat.toDigits 10 n).foldl (fun n c => 10 * n + (c.toNat - 48)) 0 = n :=
  Nat.ofDigitChars_eq_foldl.symm.trans (Nat.ofDigitChars_toDigits (by decide) (by decide))

lemma isDigit_of_mem_toDigits {n : Nat} {c : Char} (h : c ∈ Nat.toDigits 10 n) : c.isDigit = true :=
  Nat.isDigit_of_mem_toDigits (by decide) (by decide) h

lemma decimal?_toDigits {n : Nat} (hn : n < UInt64.size) :
    decimal? (Nat.toDigits 10 n) = some n := by
  have hdigits : (Nat.toDigits 10 n).all Char.isDigit = true :=
    List.all_eq_true.mpr fun c => isDigit_of_mem_toDigits
  rw [decimal?, List.isEmpty_eq_false_iff.mpr Nat.toDigits_ne_nil, hdigits, foldl_toDigits]
  simp [hn]

lemma size?_toDigits {n : UInt64} (hn : n ≠ 0) :
    size? (Nat.toDigits 10 n.toNat) = some (some n) := by
  have hne : n.toNat ≠ 0 := by
    rw [ne_eq, ← UInt64.toNat_zero, UInt64.toNat_inj]
    exact hn
  have hlt : ¬n.toNat ≥ UInt64.size := not_le.mpr n.toNat_lt_size
  rw [size?, List.isEmpty_eq_false_iff.mpr Nat.toDigits_ne_nil]
  simp only [foldl_toDigits, hne, hlt, or_self, if_false, UInt64.ofNat_toNat, Bool.false_eq_true]

lemma size?_ne_zero {digits : List Char} {size : Option UInt64} (h : size? digits = some size) :
    size ≠ some 0 := by
  rw [size?] at h
  split at h
  · obtain rfl := Option.some.inj h
    nofun
  · dsimp only at h
    split at h
    · cases h
    · next hrange =>
      obtain rfl := Option.some.inj h
      push Not at hrange
      rw [ne_eq, Option.some.injEq, ← UInt64.toNat_inj, UInt64.toNat_ofNat_of_lt' hrange.2]
      exact hrange.1

end Signature

end ContractCalls
