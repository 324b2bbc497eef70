import ContractCalls.Abi.Type
import ContractCalls.Proofs.Bytes

/-!
# Well-formed types

Types that are legal in all their components. Where moreover no array has elements without a head,
the number of elements is bounded by the bytes that hold them. The head of a dynamic type is one
word, and that of a legal type has a length that is a size.
-/

namespace ContractCalls.AbiType

/-! ### Components -/

mutual

/-- The type itself and all types within it. -/
def components : AbiType → List AbiType
  | array elem => array elem :: elem.components
  | fixedArray elem length => fixedArray elem length :: elem.components
  | tuple fields => tuple fields :: allComponents fields
  | struct name fields => struct name fields :: allComponents fields
  | t => [t]

def allComponents : List AbiType → List AbiType
  | [] => []
  | t :: ts => t.components ++ allComponents ts

end

lemma mem_components_self (t : AbiType) : t ∈ t.components := by
  cases t <;> simp [components]

lemma mem_allComponents {c t : AbiType} {ts : List AbiType} (ht : t ∈ ts) (hc : c ∈ t.components) :
    c ∈ allComponents ts := by
  induction ts with
  | nil => simp at ht
  | cons u ts ih =>
    rw [allComponents, List.mem_append]
    rcases List.mem_cons.mp ht with rfl | ht
    · exact Or.inl hc
    · exact Or.inr (ih ht)

lemma exists_of_mem_allComponents {c : AbiType} {ts : List AbiType} (h : c ∈ allComponents ts) :
    ∃ t ∈ ts, c ∈ t.components := by
  induction ts with
  | nil => cases h
  | cons t ts ih =>
    rcases List.mem_append.mp h with h | h
    · exact ⟨t, List.mem_cons_self, h⟩
    · obtain ⟨u, hu, h⟩ := ih h
      exact ⟨u, List.mem_cons_of_mem _ hu, h⟩

lemma components_subset_array {elem : AbiType} : elem.components ⊆ (array elem).components := by
  intro c hc
  exact List.mem_cons_of_mem _ hc

lemma components_subset_fixedArray {elem : AbiType} {length : UInt64} :
    elem.components ⊆ (fixedArray elem length).components := by
  intro c hc
  exact List.mem_cons_of_mem _ hc

lemma components_subset_tuple {t : AbiType} {fields : List AbiType} (ht : t ∈ fields) :
    t.components ⊆ (tuple fields).components := by
  intro c hc
  exact List.mem_cons_of_mem _ (mem_allComponents ht hc)

lemma components_subset_struct {t : AbiType} {name : String} {fields : List AbiType}
    (ht : t ∈ fields) : t.components ⊆ (struct name fields).components := by
  intro c hc
  exact List.mem_cons_of_mem _ (mem_allComponents ht hc)

/-- All components are legal. -/
def IsLegal (t : AbiType) : Prop :=
  ∀ c ∈ t.components, c.validate = .ok ()

namespace IsLegal

lemma of_subset {t u : AbiType} (h : t.IsLegal) (hsub : u.components ⊆ t.components) : u.IsLegal :=
  fun c hc => h c (hsub hc)

lemma arrayElem {elem : AbiType} (h : (array elem).IsLegal) : elem.IsLegal :=
  h.of_subset components_subset_array

lemma fixedArrayElem {elem : AbiType} {length : UInt64} (h : (fixedArray elem length).IsLegal) :
    elem.IsLegal :=
  h.of_subset components_subset_fixedArray

lemma tupleField {fields : List AbiType} (h : (tuple fields).IsLegal) : ∀ t ∈ fields, t.IsLegal :=
  fun _ ht => h.of_subset (components_subset_tuple ht)

lemma structField {name : String} {fields : List AbiType} (h : (struct name fields).IsLegal) :
    ∀ t ∈ fields, t.IsLegal :=
  fun _ ht => h.of_subset (components_subset_struct ht)

end IsLegal

/-- The elements of an array, and of a fixed array that has any, take room in a head. -/
def ElemsTakeRoom : AbiType → Prop
  | array elem => elem.headSize ≠ 0
  | fixedArray elem length => length ≠ 0 → elem.headSize ≠ 0
  | _ => True

/-- All components are legal, and the elements of all arrays take room. -/
structure IsWellFormed (t : AbiType) : Prop where
  isLegal : t.IsLegal
  elemsTakeRoom : ∀ c ∈ t.components, c.ElemsTakeRoom

instance (t : AbiType) : Decidable t.IsLegal :=
  inferInstanceAs (Decidable (∀ c ∈ t.components, c.validate = .ok ()))

instance : (t : AbiType) → Decidable t.ElemsTakeRoom
  | array elem => inferInstanceAs (Decidable (elem.headSize ≠ 0))
  | fixedArray elem length => inferInstanceAs (Decidable (length ≠ 0 → elem.headSize ≠ 0))
  | address | bool | uint _ | int _ | fixedBytes _ | bytes | string | tuple _ | struct _ _ =>
    inferInstanceAs (Decidable True)

instance (t : AbiType) : Decidable t.IsWellFormed :=
  decidable_of_iff (t.IsLegal ∧ ∀ c ∈ t.components, c.ElemsTakeRoom)
    ⟨fun h => ⟨h.1, h.2⟩, fun h => ⟨h.isLegal, h.elemsTakeRoom⟩⟩

namespace IsWellFormed

lemma of_subset {t u : AbiType} (h : t.IsWellFormed) (hsub : u.components ⊆ t.components) :
    u.IsWellFormed where
  isLegal := h.isLegal.of_subset hsub
  elemsTakeRoom c hc := h.elemsTakeRoom c (hsub hc)

lemma arrayElem {elem : AbiType} (h : (array elem).IsWellFormed) : elem.IsWellFormed :=
  h.of_subset components_subset_array

lemma fixedArrayElem {elem : AbiType} {length : UInt64}
    (h : (fixedArray elem length).IsWellFormed) : elem.IsWellFormed :=
  h.of_subset components_subset_fixedArray

lemma tupleField {fields : List AbiType} (h : (tuple fields).IsWellFormed) :
    ∀ t ∈ fields, t.IsWellFormed :=
  fun _ ht => h.of_subset (components_subset_tuple ht)

lemma structField {name : String} {fields : List AbiType} (h : (struct name fields).IsWellFormed) :
    ∀ t ∈ fields, t.IsWellFormed :=
  fun _ ht => h.of_subset (components_subset_struct ht)

end IsWellFormed

/-! ### Sizes -/

lemma headSize_eq {t : AbiType} {n : Nat} (h : t.headSize? = some n) : t.headSize = n := by
  rw [headSize, h, Option.getD_some]

/-- A dynamic type has one word in the head. -/
lemma headSize_of_isDynamic {t : AbiType} (h : t.isDynamic = true) : t.headSize = 32 := by
  apply headSize_eq
  cases t with
  | bytes | string | array => rfl
  | fixedArray elem length => rw [isDynamic] at h; rw [headSize?, if_pos h]
  | tuple fields | struct name fields => rw [isDynamic] at h; rw [headSize?, if_pos h]
  | address | bool | uint | int | fixedBytes => simp [isDynamic] at h

/-- Validation checks the widths within a type and its size in the head. -/
lemma validate_eq_ok_iff {t : AbiType} :
    t.validate = .ok () ↔ t.checkWidths = .ok () ∧ t.headSize?.isSome = true := by
  rw [validate, Except.bind_eq_ok_iff]
  cases t.headSize? with
  | some size =>
    constructor
    · rintro ⟨⟨⟩, hwidths, -⟩
      exact ⟨hwidths, rfl⟩
    · rintro ⟨hwidths, -⟩
      exact ⟨(), hwidths, rfl⟩
  | none => simp

lemma headSize?_isSome_of_validate {t : AbiType} (h : t.validate = .ok ()) : t.headSize?.isSome :=
  (validate_eq_ok_iff.mp h).2

lemma IsLegal.headSize?_isSome {t : AbiType} (h : t.IsLegal) : t.headSize?.isSome :=
  headSize?_isSome_of_validate (h t t.mem_components_self)

lemma check?_eq_some_iff {m n : Nat} : Size.check? m = some n ↔ m = n ∧ m < Size.limit := by
  rw [Size.check?]
  split
  · next hlt => simp [hlt]
  · next hlt => simp [hlt]

lemma inlineSize?_cons_eq_some {t : AbiType} {ts : List AbiType} {n : Nat}
    (h : inlineSize? (t :: ts) = some n) : ∃ size sizes, t.headSize? = some size ∧
      inlineSize? ts = some sizes ∧ n = size + sizes ∧ n < Size.limit := by
  rw [inlineSize?] at h
  obtain ⟨size, hsize, h⟩ := Option.bind_eq_some_iff.mp h
  obtain ⟨sizes, hsizes, h⟩ := Option.bind_eq_some_iff.mp h
  obtain ⟨rfl, hlt⟩ := check?_eq_some_iff.mp h
  exact ⟨size, sizes, hsize, hsizes, rfl, hlt⟩

/-- The head sizes of copies of one type. -/
lemma inlineSize?_replicate {t : AbiType} {size : Nat} (ht : t.headSize? = some size) {count : Nat}
    (hlt : count * size < Size.limit) :
    inlineSize? (List.replicate count t) = some (count * size) := by
  induction count with
  | zero => rw [List.replicate_zero, inlineSize?, Nat.zero_mul]
  | succ count ih =>
    have hsum : (count + 1) * size = size + count * size := by ring
    rw [hsum] at hlt ⊢
    rw [List.replicate_succ, inlineSize?, ht, ih (by omega)]
    exact check?_eq_some_iff.mpr ⟨rfl, hlt⟩

lemma anyDynamic_eq_false_iff {ts : List AbiType} :
    anyDynamic ts = false ↔ ∀ t ∈ ts, t.isDynamic = false := by
  induction ts with
  | nil => simp [anyDynamic]
  | cons t ts ih => rw [anyDynamic, Bool.or_eq_false_iff, ih, List.forall_mem_cons]

end ContractCalls.AbiType
