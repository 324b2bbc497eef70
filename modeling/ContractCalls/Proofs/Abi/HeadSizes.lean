import ContractCalls.Proofs.Abi.Validation

/-!
# Dynamic types and head sizes

What the layout of a type says, in terms of the type as it is written: it is dynamic if something in
it varies in length, and the head of a static type has 32 bytes for each leaf.
-/

namespace ContractCalls.AbiType

/-! ### What makes a type dynamic -/

/-- A type stands within another one, and not among the elements of a fixed array that has none. -/
inductive OccursIn (c : AbiType) : AbiType → Prop where
  | self : OccursIn c c
  | arrayElem {elem : AbiType} (h : OccursIn c elem) : OccursIn c (array elem)
  | fixedArrayElem {elem : AbiType} {length : UInt64} (hlength : length ≠ 0) (h : OccursIn c elem) :
      OccursIn c (fixedArray elem length)
  | tupleField {fields : List AbiType} {t : AbiType} (ht : t ∈ fields) (h : OccursIn c t) :
      OccursIn c (tuple fields)
  | structField (name : String) {fields : List AbiType} {t : AbiType} (ht : t ∈ fields)
      (h : OccursIn c t) :
      OccursIn c (struct name fields)

/-- The values of the type itself differ in length. -/
def VariesInLength : AbiType → Prop
  | bytes | string | array _ => True
  | _ => False

lemma VariesInLength.isDynamic {t : AbiType} (h : t.VariesInLength) : t.isDynamic = true := by
  cases t with
  | bytes | string | array elem => rfl
  | address | bool | uint | int | fixedBytes | fixedArray | tuple | struct => exact h.elim

lemma anyDynamic_eq_true_iff {ts : List AbiType} :
    anyDynamic ts = true ↔ ∃ t ∈ ts, t.isDynamic = true := by
  induction ts with
  | nil => simp [anyDynamic]
  | cons t ts ih => simp [anyDynamic, ih]

lemma OccursIn.isDynamic {c t : AbiType} (h : c.OccursIn t) (hc : c.isDynamic = true) :
    t.isDynamic = true := by
  induction h with
  | self => exact hc
  | arrayElem => rfl
  | fixedArrayElem hlength _ ih => simp [AbiType.isDynamic, hlength, ih]
  | tupleField ht _ ih | structField _ ht _ ih => exact anyDynamic_eq_true_iff.mpr ⟨_, ht, ih⟩

mutual

lemma exists_occursIn_of_isDynamic {t : AbiType} (h : t.isDynamic = true) :
    ∃ c : AbiType, c.OccursIn t ∧ c.VariesInLength := by
  match t with
  | bytes | string | array elem => exact ⟨_, .self, trivial⟩
  | address | bool | uint bits | int bits | fixedBytes size => simp [isDynamic] at h
  | fixedArray elem length =>
    rw [isDynamic, Bool.and_eq_true, bne_iff_ne] at h
    obtain ⟨c, hc, hvaries⟩ := exists_occursIn_of_isDynamic h.2
    exact ⟨c, .fixedArrayElem h.1 hc, hvaries⟩
  | tuple fields =>
    obtain ⟨u, hu, c, hc, hvaries⟩ := exists_occursIn_of_anyDynamic h
    exact ⟨c, .tupleField hu hc, hvaries⟩
  | struct name fields =>
    obtain ⟨u, hu, c, hc, hvaries⟩ := exists_occursIn_of_anyDynamic h
    exact ⟨c, .structField name hu hc, hvaries⟩

lemma exists_occursIn_of_anyDynamic {ts : List AbiType} (h : anyDynamic ts = true) :
    ∃ t ∈ ts, ∃ c : AbiType, c.OccursIn t ∧ c.VariesInLength := by
  match ts with
  | [] => simp [anyDynamic] at h
  | t :: ts =>
    rw [anyDynamic, Bool.or_eq_true] at h
    rcases h with h | h
    · exact ⟨t, List.mem_cons_self, exists_occursIn_of_isDynamic h⟩
    · obtain ⟨u, hu, hc⟩ := exists_occursIn_of_anyDynamic h
      exact ⟨u, List.mem_cons_of_mem _ hu, hc⟩

end

lemma isDynamic_iff_exists_occursIn {t : AbiType} :
    t.isDynamic = true ↔ ∃ c : AbiType, c.OccursIn t ∧ c.VariesInLength := by
  constructor
  · exact exists_occursIn_of_isDynamic
  · rintro ⟨c, hc, hvaries⟩
    exact hc.isDynamic hvaries.isDynamic

/-! ### The size of a static type -/

lemma headSizes_eq_headSize {t : AbiType} (hstatic : t.isDynamic = false) {fields : List AbiType}
    (hfields : fields ∈ t.fields?) : headSizes fields = t.headSize := by
  rw [headSizes_eq_getD, headSize, headSize?_of_static hstatic hfields]

mutual

/-- The bytes that a value of a static type takes, be they ever so many. -/
def inlineSize : AbiType → Nat
  | fixedArray elem length => length.toNat * elem.inlineSize
  | tuple fields | struct _ fields => inlineSizes fields
  | _ => 32

def inlineSizes : List AbiType → Nat
  | [] => 0
  | t :: ts => t.inlineSize + inlineSizes ts

end

/-- All fixed arrays within the type have elements. -/
def HasElements (t : AbiType) : Prop :=
  ∀ elem, fixedArray elem 0 ∉ t.components

lemma HasElements.of_subset {t u : AbiType} (h : t.HasElements)
    (hsub : u.components ⊆ t.components) : u.HasElements :=
  fun elem hmem => h elem (hsub hmem)

lemma HasElements.length_ne_zero {elem : AbiType} {length : UInt64}
    (h : (fixedArray elem length).HasElements) : length ≠ 0 := by
  rintro rfl
  exact h elem (mem_components_self _)

lemma check?_eq_none_iff {n : Nat} : Size.check? n = none ↔ Size.limit ≤ n := by
  simp [Size.check?]

/-- A sum is a size only if both parts are. -/
lemma check?_add (m n : Nat) :
    (do Size.check? ((← Size.check? m) + (← Size.check? n))) = Size.check? (m + n) := by
  by_cases hm : m < Size.limit
  · by_cases hn : n < Size.limit
    · simp [Size.check?, hm, hn]
    · have hsum : Size.check? (m + n) = none := check?_eq_none_iff.mpr (by omega)
      rw [hsum]
      simp [Size.check?, hm, hn]
  · have hsum : Size.check? (m + n) = none := check?_eq_none_iff.mpr (by omega)
    rw [hsum]
    simp [Size.check?, hm]

/-- A product with a number other than zero is a size only if the factor is. -/
lemma check?_mul {k : Nat} (hk : k ≠ 0) (n : Nat) :
    (Size.check? n >>= fun n => Size.check? (k * n)) = Size.check? (k * n) := by
  by_cases hn : n < Size.limit
  · simp [Size.check?, hn]
  · have hle : n ≤ k * n := Nat.le_mul_of_pos_left n (Nat.pos_of_ne_zero hk)
    have hproduct : Size.check? (k * n) = none := check?_eq_none_iff.mpr (by omega)
    rw [hproduct]
    simp [Size.check?, hn]

mutual

lemma headSize?_eq_check? {t : AbiType} (hstatic : t.isDynamic = false) (helems : t.HasElements) :
    t.headSize? = Size.check? t.inlineSize := by
  match t with
  | address | bool | uint bits | int bits | fixedBytes size => rfl
  | bytes | string | array elem => cases hstatic
  | fixedArray elem length =>
    have hlength := helems.length_ne_zero
    have helem : elem.isDynamic = false := by simpa [isDynamic, hlength] using hstatic
    have hcount : length.toNat ≠ 0 := by
      intro hzero
      exact hlength (UInt64.toNat_inj.mp hzero)
    rw [isDynamic] at hstatic
    rw [headSize?, hstatic, if_neg Bool.false_ne_true,
      headSize?_eq_check? helem (helems.of_subset components_subset_fixedArray), check?_mul hcount,
      inlineSize]
  | tuple fields =>
    rw [isDynamic] at hstatic
    rw [headSize?, hstatic, if_neg Bool.false_ne_true, inlineSize]
    exact inlineSize?_eq_check? (anyDynamic_eq_false_iff.mp hstatic)
      (fun t ht => helems.of_subset (components_subset_tuple ht))
  | struct name fields =>
    rw [isDynamic] at hstatic
    rw [headSize?, hstatic, if_neg Bool.false_ne_true, inlineSize]
    exact inlineSize?_eq_check? (anyDynamic_eq_false_iff.mp hstatic)
      (fun t ht => helems.of_subset (components_subset_struct ht))

lemma inlineSize?_eq_check? {ts : List AbiType} (hstatic : ∀ t ∈ ts, t.isDynamic = false)
    (helems : ∀ t ∈ ts, t.HasElements) : inlineSize? ts = Size.check? (inlineSizes ts) := by
  match ts with
  | [] => rfl
  | t :: ts =>
    rw [List.forall_mem_cons] at hstatic helems
    rw [inlineSize?, headSize?_eq_check? hstatic.1 helems.1,
      inlineSize?_eq_check? hstatic.2 helems.2, inlineSizes]
    exact check?_add _ _

end

/-! ### Layouts -/

/-- A type is dynamic just if a byte string, a text or an array occurs in it. The fields of a static
tuple or struct add up to its size, also beyond the largest one. A static type all of whose fixed
arrays have elements has the size of its leaves together, unless that is too large. -/
theorem layout_of_type (t : AbiType) :
    (t.isDynamic = true ↔ ∃ c : AbiType, c.OccursIn t ∧ c.VariesInLength) ∧
    (t.isDynamic = false → ∀ fields ∈ t.fields?, headSizes fields = t.headSize) ∧
    (t.isDynamic = false → t.HasElements →
      (∀ n, t.headSize? = some n ↔ t.inlineSize = n ∧ n < 2 ^ 64) ∧
      (t.headSize? = none ↔ 2 ^ 64 ≤ t.inlineSize)) := by
  refine ⟨isDynamic_iff_exists_occursIn, fun hstatic fields => headSizes_eq_headSize hstatic, ?_⟩
  intro hstatic helems
  have hlimit : Size.limit = 2 ^ 64 := rfl
  rw [headSize?_eq_check? hstatic helems, ← hlimit]
  constructor
  · intro n
    rw [check?_eq_some_iff]
    constructor
    · rintro ⟨rfl, hlt⟩
      exact ⟨rfl, hlt⟩
    · rintro ⟨rfl, hlt⟩
      exact ⟨rfl, hlt⟩
  · exact check?_eq_none_iff

/-- Two fields with sizes, whose sum is just too large. -/
theorem layout_of_type_halves :
    let half : AbiType := fixedArray (uint 256) 0x400000000000000
    let t : AbiType := struct "Halves" [half, half]
    t.isDynamic = false ∧ t.HasElements ∧ half.headSize? = some (2 ^ 63) ∧ t.headSize? = none ∧
      headSizes [half, half] = t.headSize := by
  intro half t
  obtain ⟨-, hfields, hsize⟩ := layout_of_type t
  have hstatic : t.isDynamic = false := by decide
  have helems : t.HasElements := by
    intro elem
    simp [t, half, components, allComponents]
  refine ⟨hstatic, helems, by decide +kernel, ?_, hfields hstatic _ rfl⟩
  exact (hsize hstatic helems).2.mpr (by decide +kernel)

end ContractCalls.AbiType
