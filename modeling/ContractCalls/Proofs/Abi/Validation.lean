import ContractCalls.Proofs.Abi.Encoding
import ContractCalls.Signature.Resolution

/-!
# Which layouts are legal

Validation looks at the widths of all components of a type, and at the sizes of those that stand in
its head. What stands behind an offset may take more room than a size can say, however deep it lies
and whatever is around it.
-/

namespace ContractCalls.AbiType

/-! ### Widths -/

/-- Integer types and types of fixed bytes have a legal width. -/
def HasLegalWidth : AbiType → Prop
  | uint bits | int bits => isIntegerWidth bits = true
  | fixedBytes size => size ≠ 0 ∧ size ≤ 32
  | _ => True

mutual

lemma checkWidths_eq_ok_iff (t : AbiType) :
    t.checkWidths = .ok () ↔ ∀ c ∈ t.components, c.HasLegalWidth := by
  match t with
  | address | bool | bytes | string => simp [checkWidths, components, HasLegalWidth]
  | uint bits | int bits | fixedBytes size =>
    simp [checkWidths, components, HasLegalWidth]
  | array elem =>
    rw [checkWidths, components, List.forall_mem_cons, checkWidths_eq_ok_iff elem]
    simp [HasLegalWidth]
  | fixedArray elem length =>
    rw [checkWidths, components, List.forall_mem_cons, checkWidths_eq_ok_iff elem]
    simp [HasLegalWidth]
  | tuple fields =>
    rw [checkWidths, components, List.forall_mem_cons, checkAllWidths_eq_ok_iff fields]
    simp [HasLegalWidth]
  | struct name fields =>
    rw [checkWidths, components, List.forall_mem_cons, checkAllWidths_eq_ok_iff fields]
    simp [HasLegalWidth]

lemma checkAllWidths_eq_ok_iff (ts : List AbiType) :
    checkAllWidths ts = .ok () ↔ ∀ c ∈ allComponents ts, c.HasLegalWidth := by
  match ts with
  | [] => simp [checkAllWidths, allComponents]
  | t :: ts =>
    rw [checkAllWidths, Except.bind_eq_ok_iff, allComponents, List.forall_mem_append,
      ← checkWidths_eq_ok_iff t, ← checkAllWidths_eq_ok_iff ts]
    constructor
    · rintro ⟨⟨⟩, ht, hts⟩
      exact ⟨ht, hts⟩
    · rintro ⟨ht, hts⟩
      exact ⟨(), ht, hts⟩

end

/-! ### What stands in the head -/

mutual

/-- The types that stand in the head of a type: the type itself and, unless it stands behind an
offset, those within it. -/
def inlined : AbiType → List AbiType
  | fixedArray elem length =>
    fixedArray elem length :: if length != 0 && elem.isDynamic then [] else elem.inlined
  | tuple fields => tuple fields :: if anyDynamic fields then [] else allInlined fields
  | struct name fields => struct name fields :: if anyDynamic fields then [] else allInlined fields
  | t => [t]

def allInlined : List AbiType → List AbiType
  | [] => []
  | t :: ts => t.inlined ++ allInlined ts

end

lemma mem_inlined_self (t : AbiType) : t ∈ t.inlined := by
  cases t <;> simp [inlined]

/-- A type lies within a dynamic one, for which the head has no more than an offset. -/
def IsBehindOffset (c : AbiType) (head : List AbiType) : Prop :=
  ∃ d ∈ head, d.isDynamic = true ∧ c ∈ d.components

lemma IsBehindOffset.mono {c : AbiType} {head head' : List AbiType} (h : c.IsBehindOffset head)
    (hsub : head ⊆ head') : c.IsBehindOffset head' := by
  obtain ⟨d, hd, hdynamic, hc⟩ := h
  exact ⟨d, hsub hd, hdynamic, hc⟩

/-- All of a dynamic type stands behind its offset. -/
lemma isBehindOffset_of_isDynamic {c t : AbiType} (h : t.isDynamic = true) (hc : c ∈ t.components) :
    c.IsBehindOffset t.inlined :=
  ⟨t, t.mem_inlined_self, h, hc⟩

lemma mem_or_isBehindOffset_of_subset {c : AbiType} {head head' : List AbiType}
    (h : c ∈ head ∨ c.IsBehindOffset head) (hsub : head ⊆ head') :
    c ∈ head' ∨ c.IsBehindOffset head' := by
  rcases h with h | h
  · exact .inl (hsub h)
  · exact .inr (h.mono hsub)

mutual

/-- Every component stands in the head or behind an offset. -/
lemma mem_inlined_or_isBehindOffset (t : AbiType) :
    ∀ c ∈ t.components, c ∈ t.inlined ∨ c.IsBehindOffset t.inlined := by
  intro c hc
  cases hdynamic : t.isDynamic with
  | true => exact .inr (isBehindOffset_of_isDynamic hdynamic hc)
  | false =>
    match t with
    | address | bool | bytes | string | uint bits | int bits | fixedBytes size => exact .inl hc
    | array elem => cases hdynamic
    | fixedArray elem length =>
      rw [isDynamic] at hdynamic
      rw [inlined, hdynamic, if_neg Bool.false_ne_true]
      rcases List.mem_cons.mp hc with rfl | hc
      · exact .inl List.mem_cons_self
      · exact mem_or_isBehindOffset_of_subset (mem_inlined_or_isBehindOffset elem c hc)
          (List.subset_cons_self _ _)
    | tuple fields | struct name fields =>
      rw [isDynamic] at hdynamic
      rw [inlined, hdynamic, if_neg Bool.false_ne_true]
      rcases List.mem_cons.mp hc with rfl | hc
      · exact .inl List.mem_cons_self
      · exact mem_or_isBehindOffset_of_subset (mem_allInlined_or_isBehindOffset fields c hc)
          (List.subset_cons_self _ _)

lemma mem_allInlined_or_isBehindOffset (ts : List AbiType) :
    ∀ c ∈ allComponents ts, c ∈ allInlined ts ∨ c.IsBehindOffset (allInlined ts) := by
  intro c hc
  match ts with
  | [] => cases hc
  | t :: ts =>
    rw [allComponents, List.mem_append] at hc
    rw [allInlined]
    rcases hc with hc | hc
    · exact mem_or_isBehindOffset_of_subset (mem_inlined_or_isBehindOffset t c hc)
        (List.subset_append_left _ _)
    · exact mem_or_isBehindOffset_of_subset (mem_allInlined_or_isBehindOffset ts c hc)
        (List.subset_append_right _ _)

end

/-! ### Sizes in the head -/

lemma inlineSize?_lt {ts : List AbiType} {n : Nat} (h : inlineSize? ts = some n) :
    n < Size.limit := by
  cases ts with
  | nil =>
    obtain rfl := Option.some.inj h
    decide
  | cons t ts =>
    obtain ⟨-, -, -, -, -, hlt⟩ := inlineSize?_cons_eq_some h
    exact hlt

mutual

/-- If a type has a size in the head, so has everything that stands there. -/
lemma isSome_headSize?_of_mem_inlined {t : AbiType} (h : t.headSize?.isSome = true) :
    ∀ c ∈ t.inlined, c.headSize?.isSome = true := by
  match t with
  | address | bool | bytes | string | uint bits | int bits | fixedBytes size | array elem =>
    exact List.forall_mem_singleton.mpr h
  | fixedArray elem length =>
    rw [inlined, List.forall_mem_cons]
    refine ⟨h, ?_⟩
    split
    · simp
    · next hstatic =>
      rw [headSize?, if_neg hstatic] at h
      exact isSome_headSize?_of_mem_inlined (Option.isSome_of_isSome_bind h)
  | tuple fields | struct name fields =>
    rw [inlined, List.forall_mem_cons]
    refine ⟨h, ?_⟩
    split
    · simp
    · next hstatic =>
      rw [headSize?, if_neg hstatic] at h
      exact isSome_headSize?_of_mem_allInlined h

lemma isSome_headSize?_of_mem_allInlined {ts : List AbiType} (h : (inlineSize? ts).isSome = true) :
    ∀ c ∈ allInlined ts, c.headSize?.isSome = true := by
  match ts with
  | [] => simp [allInlined]
  | t :: ts =>
    obtain ⟨n, h⟩ := Option.isSome_iff_exists.mp h
    obtain ⟨size, sizes, hsize, hsizes, -⟩ := inlineSize?_cons_eq_some h
    rw [allInlined, List.forall_mem_append]
    exact ⟨isSome_headSize?_of_mem_inlined (Option.isSome_of_eq_some hsize),
      isSome_headSize?_of_mem_allInlined (Option.isSome_of_eq_some hsizes)⟩

end

mutual

/-- Heads consist of words. -/
lemma dvd_of_headSize?_eq_some {t : AbiType} {n : Nat} (h : t.headSize? = some n) : 32 ∣ n := by
  match t with
  | address | bool | bytes | string | uint bits | int bits | fixedBytes size | array elem =>
    obtain rfl := Option.some.inj h
    exact dvd_rfl
  | fixedArray elem length =>
    rw [headSize?] at h
    split at h
    · obtain rfl := Option.some.inj h
      exact dvd_rfl
    · obtain ⟨size, hsize, h⟩ := Option.bind_eq_some_iff.mp h
      obtain ⟨rfl, -⟩ := check?_eq_some_iff.mp h
      exact (dvd_of_headSize?_eq_some hsize).mul_left _
  | tuple fields | struct name fields =>
    rw [headSize?] at h
    split at h
    · obtain rfl := Option.some.inj h
      exact dvd_rfl
    · exact dvd_of_inlineSize?_eq_some h

lemma dvd_of_inlineSize?_eq_some {ts : List AbiType} {n : Nat} (h : inlineSize? ts = some n) :
    32 ∣ n := by
  match ts with
  | [] =>
    obtain rfl := Option.some.inj h
    exact dvd_zero 32
  | t :: ts =>
    obtain ⟨size, sizes, hsize, hsizes, rfl, -⟩ := inlineSize?_cons_eq_some h
    exact (dvd_of_headSize?_eq_some hsize).add (dvd_of_inlineSize?_eq_some hsizes)

end

/-! ### Sums that stop at the largest size -/

lemma saturate_add (m n : Nat) : Size.saturate (Size.saturate m + n) = Size.saturate (m + n) := by
  simp only [Size.saturate]
  omega

/-- However often it stops on the way, a sum ends at the largest size if it is too large, and else
is exact. -/
lemma foldl_saturate (start : Nat) (ts : List AbiType) :
    ts.foldl (fun size t => Size.saturate (size + t.headSize)) (Size.saturate start) =
      Size.saturate (start + (ts.map headSize).sum) := by
  induction ts generalizing start with
  | nil => rfl
  | cons t ts ih =>
    rw [List.foldl_cons, saturate_add, ih, List.map_cons, List.sum_cons, Nat.add_assoc]

lemma headSizes_eq_saturate (ts : List AbiType) :
    headSizes ts = Size.saturate (ts.map headSize).sum := by
  have h := foldl_saturate 0 ts
  rwa [Nat.zero_add] at h

lemma max_le_headSize_of_none {t : AbiType} (h : t.headSize? = none) : Size.max ≤ t.headSize := by
  rw [headSize, h, Option.getD_none]

/-- A sum of sizes has no result only if it is too large, or one of them has none. -/
lemma max_le_sum_of_none {ts : List AbiType} (h : inlineSize? ts = none) :
    Size.max ≤ (ts.map headSize).sum := by
  induction ts with
  | nil => simp [inlineSize?] at h
  | cons t ts ih =>
    rw [List.map_cons, List.sum_cons]
    cases hsize : t.headSize? with
    | none => exact (max_le_headSize_of_none hsize).trans (Nat.le_add_right _ _)
    | some size =>
      cases hsizes : inlineSize? ts with
      | none => exact (ih hsizes).trans (Nat.le_add_left _ _)
      | some sizes =>
        have hlarge : ¬size + sizes < Size.limit := by
          simpa [inlineSize?, hsize, hsizes, Size.check?] using h
        rw [headSize_eq hsize, (Abi.inlineSize?_eq hsizes).2]
        exact (Nat.sub_le _ _).trans (Nat.le_of_not_lt hlarge)

/-- The two ways of adding up agree. -/
lemma headSizes_eq_getD (ts : List AbiType) : headSizes ts = (inlineSize? ts).getD Size.max := by
  rw [headSizes_eq_saturate]
  cases h : inlineSize? ts with
  | none => exact Nat.min_eq_right (max_le_sum_of_none h)
  | some n =>
    rw [(Abi.inlineSize?_eq h).2]
    exact Nat.min_eq_left (Nat.le_pred_of_lt (inlineSize?_lt h))

/-! ### Heads -/

/-- The fields of a tuple or struct. -/
def fields? : AbiType → Option (List AbiType)
  | tuple fields | struct _ fields => some fields
  | _ => none

/-- The length of the head of a type is a size. The fields of a tuple or struct that is no dynamic
one add up to less than the largest size, at which sums stop. -/
structure HasHead (t : AbiType) : Prop where
  isSome_headSize? : t.headSize?.isSome = true
  headSizes_ne_max : t.isDynamic = false → ∀ fields ∈ t.fields?, headSizes fields ≠ Size.max

/-- The heads of the fields do not reach the largest size, as that is no number of words. -/
lemma headSizes_ne_max_of_isSome {ts : List AbiType} (h : (inlineSize? ts).isSome = true) :
    headSizes ts ≠ Size.max := by
  obtain ⟨n, h⟩ := Option.isSome_iff_exists.mp h
  have hdvd := dvd_of_inlineSize?_eq_some h
  rw [headSizes_eq_getD, h, Option.getD_some, Size.max, UInt64.size]
  omega

lemma headSize?_of_static {t : AbiType} (hstatic : t.isDynamic = false) {fields : List AbiType}
    (hfields : fields ∈ t.fields?) : t.headSize? = inlineSize? fields := by
  cases t with
  | tuple fields' | struct name fields' =>
    obtain rfl := Option.some.inj hfields
    rw [isDynamic] at hstatic
    rw [headSize?, hstatic, if_neg Bool.false_ne_true]
  | _ => cases hfields

lemma hasHead_iff {t : AbiType} : t.HasHead ↔ t.headSize?.isSome = true := by
  refine ⟨fun h => h.isSome_headSize?, fun h => ⟨h, ?_⟩⟩
  intro hstatic fields hfields
  rw [headSize?_of_static hstatic hfields] at h
  exact headSizes_ne_max_of_isSome h

/-- Just those types are legal of which all components have legal widths and what stands in the head
has a head itself. Any other component stands behind an offset, and its size is not looked at. -/
theorem validate_iff_hasHead (t : AbiType) :
    (t.validate = .ok () ↔
      (∀ c ∈ t.components, c.HasLegalWidth) ∧ ∀ c ∈ t.inlined, c.HasHead) ∧
    ∀ c ∈ t.components, c ∈ t.inlined ∨ c.IsBehindOffset t.inlined := by
  refine ⟨?_, mem_inlined_or_isBehindOffset t⟩
  have hhead : t.headSize?.isSome = true ↔ ∀ c ∈ t.inlined, c.HasHead := by
    simp only [hasHead_iff]
    exact ⟨isSome_headSize?_of_mem_inlined, fun h => h t t.mem_inlined_self⟩
  rw [validate_eq_ok_iff, checkWidths_eq_ok_iff, hhead]

/-- Behind an offset a type passes whose elements have more bytes than a size can say, also if it
was parsed, and a tuple whose fields have. -/
theorem exists_validate_of_overflow :
    let large : AbiType := fixedArray (uint 256) 0x8000000000000000
    (∃ t, AbiType.parse "uint256[9223372036854775808][]" = .ok t ∧ t.validate = .ok () ∧
      ∃ c ∈ t.components, c.headSize? = none) ∧
    ((array large).validate = .ok () ∧ large ∈ (array large).components ∧ large.headSize? = none) ∧
    (tuple [bytes, large]).validate = .ok () ∧ headSizes [bytes, large] = Size.max := by
  intro large
  refine ⟨?parsed, ⟨by decide +kernel, ?_, by decide +kernel⟩, by decide +kernel, by decide +kernel⟩
  case parsed =>
    have hvalidate : AbiType.parse "uint256[9223372036854775808][]" >>= validate = .ok () := by
      decide +kernel
    have hsizes : (AbiType.parse "uint256[9223372036854775808][]").map
        (·.components.any (·.headSize?.isNone)) = .ok true := by
      decide +kernel
    obtain ⟨t, hparse, hvalidate⟩ := Except.bind_eq_ok_iff.mp hvalidate
    rw [hparse] at hsizes
    obtain ⟨c, hc, hnone⟩ := List.any_eq_true.mp (Except.ok.inj hsizes)
    exact ⟨t, hparse, hvalidate, c, hc, Option.isNone_iff_eq_none.mp hnone⟩
  · exact components_subset_array (mem_components_self _)

end ContractCalls.AbiType
