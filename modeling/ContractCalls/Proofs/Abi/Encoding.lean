import ContractCalls.Abi.Encoding
import ContractCalls.Proofs.Abi.Layout
import ContractCalls.Proofs.Abi.Typing
import ContractCalls.Proofs.Abi.WellFormed

/-!
# Sizes of encodings

A value of a static type is encoded in as many bytes as the type takes in a head, so that the fields
of a sequence of values fill the room that their types announce.
-/

namespace ContractCalls.Abi

/-- The elements of an array are the fields of a sequence whose types are all the same. -/
lemma elemFields_eq (vs : List AbiValue) (t : AbiType) :
    elemFields vs t = fields vs (List.replicate vs.length t) := by
  induction vs with
  | nil => simp [elemFields, fields]
  | cons v vs ih => rw [elemFields, List.length_cons, List.replicate_succ, fields, ih]

lemma headLength_fields {vs : List AbiValue} {ts : List AbiType} (h : HaveTypes vs ts) :
    headLength (fields vs ts) = (ts.map AbiType.headSize).sum := by
  induction vs generalizing ts with
  | nil =>
    cases h
    simp [fields, headLength]
  | cons v vs ih =>
    cases h with
    | cons _ hs => rw [fields, headLength, ih hs, List.map_cons, List.sum_cons]

lemma dynamic_of_mem_fields {vs : List AbiValue} {ts : List AbiType} (h : HaveTypes vs ts)
    {f : Field} (hf : f ∈ fields vs ts) : ∃ t ∈ ts, f.dynamic = t.isDynamic := by
  induction vs generalizing ts with
  | nil =>
    cases h
    simp [fields] at hf
  | cons v vs ih =>
    cases h with
    | cons _ hs =>
      rw [fields, List.mem_cons] at hf
      rcases hf with rfl | hf
      · exact ⟨_, List.mem_cons_self, rfl⟩
      · obtain ⟨t, ht, heq⟩ := ih hs hf
        exact ⟨t, List.mem_cons_of_mem _ ht, heq⟩

lemma dynamic_eq_false_of_mem_fields {vs : List AbiValue} {ts : List AbiType} (h : HaveTypes vs ts)
    (hstatic : ∀ t ∈ ts, t.isDynamic = false) : ∀ f ∈ fields vs ts, f.dynamic = false := by
  intro f hf
  obtain ⟨t, ht, heq⟩ := dynamic_of_mem_fields h hf
  rw [heq, hstatic t ht]

lemma inlineSize?_eq {ts : List AbiType} {n : Nat} (h : AbiType.inlineSize? ts = some n) :
    (∀ t ∈ ts, t.headSize?.isSome) ∧ (ts.map AbiType.headSize).sum = n := by
  induction ts generalizing n with
  | nil =>
    rw [AbiType.inlineSize?, Option.some.injEq] at h
    simp [h]
  | cons t ts ih =>
    obtain ⟨size, rest, hsize, hrest, rfl, -⟩ := AbiType.inlineSize?_cons_eq_some h
    obtain ⟨hsome, hsum⟩ := ih hrest
    rw [List.map_cons, List.sum_cons, hsum, AbiType.headSize_eq hsize, List.forall_mem_cons, hsize]
    exact ⟨⟨rfl, hsome⟩, rfl⟩

mutual

/-- The encoding of a value of a static type has the length that the type announces. -/
lemma length_encodeValue {v : AbiValue} {t : AbiType} (h : HasType v t)
    (hstatic : t.isDynamic = false) {n : Nat} (hn : t.headSize? = some n) :
    (encodeValue v t).length = n := by
  match h with
  | .address _ | .uint _ _ | .int _ _ | .fixedBytes _ _ =>
    rw [encodeValue, Bytes.length_ofBitVec]
    exact Option.some.inj hn
  | .bool _ =>
    rw [encodeValue, Bytes.length_ofNat]
    exact Option.some.inj hn
  | .bytes _ | .string _ | .array _ => simp [AbiType.isDynamic] at hstatic
  | @HasType.fixedArray elems elem length hlen h =>
    rw [AbiType.isDynamic] at hstatic
    rw [AbiType.headSize?, hstatic, if_neg Bool.false_ne_true] at hn
    obtain ⟨size, hsize, hn⟩ := Option.bind_eq_some_iff.mp hn
    obtain ⟨rfl, hlt⟩ := AbiType.check?_eq_some_iff.mp hn
    rw [← hlen] at hlt ⊢
    rw [encodeValue, elemFields_eq]
    refine length_layOut_fields h ?_ (AbiType.inlineSize?_replicate hsize hlt)
    rw [AbiType.anyDynamic_eq_false_iff]
    intro t ht
    obtain ⟨hne, rfl⟩ := List.mem_replicate.mp ht
    have hlength : length ≠ 0 := by
      rintro rfl
      exact hne hlen
    simpa [hlength] using hstatic
  | .tuple h | .tupleAsStruct _ h | .struct _ _ h =>
    rw [AbiType.isDynamic] at hstatic
    rw [AbiType.headSize?, hstatic, if_neg Bool.false_ne_true] at hn
    rw [encodeValue]
    exact length_layOut_fields h hstatic hn

lemma length_layOut_fields {vs : List AbiValue} {ts : List AbiType} (h : HaveTypes vs ts)
    (hstatic : AbiType.anyDynamic ts = false) {n : Nat} (hn : AbiType.inlineSize? ts = some n) :
    (layOut (fields vs ts)).length = n := by
  obtain ⟨hsome, hsum⟩ := inlineSize?_eq hn
  have hfields := dynamic_eq_false_of_mem_fields h (AbiType.anyDynamic_eq_false_iff.mp hstatic)
  rw [length_layOut_of_static (isSized_fields h hsome) hfields, headLength_fields h, hsum]

/-- The fields of a sequence of values fill their room. -/
lemma isSized_fields {vs : List AbiValue} {ts : List AbiType} (h : HaveTypes vs ts)
    (hsome : ∀ t ∈ ts, t.headSize?.isSome) : ∀ f ∈ fields vs ts, f.IsSized := by
  match h with
  | .nil => simp [fields]
  | @HaveTypes.cons v t vs ts h hs =>
    rw [List.forall_mem_cons] at hsome
    obtain ⟨ht, hts⟩ := hsome
    rw [fields, List.forall_mem_cons]
    obtain ⟨n, hn⟩ := Option.isSome_iff_exists.mp ht
    refine ⟨⟨fun hstatic => ?_, AbiType.headSize_of_isDynamic⟩, isSized_fields hs hts⟩
    exact (length_encodeValue h hstatic hn).trans (AbiType.headSize_eq hn).symm

end

/-- The encoding of a value fills the room of its type. -/
lemma isSized_field {v : AbiValue} {t : AbiType} (h : HasType v t) (ht : t.headSize?.isSome) :
    Field.IsSized ⟨t.isDynamic, t.headSize, encodeValue v t⟩ :=
  isSized_fields (.cons h .nil) (List.forall_mem_singleton.mpr ht) _ List.mem_cons_self

end ContractCalls.Abi
