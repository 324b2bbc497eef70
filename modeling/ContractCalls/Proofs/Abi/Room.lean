import ContractCalls.Proofs.Abi.Encoding

/-!
# What a reader has room for

A reader takes nothing for an array that announces more elements than there are bytes left, even if
the elements take no bytes. So it depends on what follows an encoded value whether it can be read.
It also depends on the types of the components: a legal type may have components whose heads are too
large for a size, if they stand behind an offset. For well-formed types all this goes without
saying.
-/

namespace ContractCalls.AbiValue

open Abi

/-! ### Components with a head size -/

mutual

/-- All values within the value stand for types that have a head size. -/
def HasSizes : AbiValue → AbiType → Prop
  | array elems, .array elem => AllHaveSizes elems (List.replicate elems.length elem)
  | fixedArray elems, .fixedArray elem _ => AllHaveSizes elems (List.replicate elems.length elem)
  | tuple values, .tuple types
  | tuple values, .struct _ types
  | struct _ values, .struct _ types => AllHaveSizes values types
  | _, _ => True

/-- The values, and all values within them, stand for types that have a head size. -/
def AllHaveSizes : List AbiValue → List AbiType → Prop
  | v :: vs, t :: ts => t.headSize?.isSome ∧ HasSizes v t ∧ AllHaveSizes vs ts
  | _, _ => True

end

/-! ### Room -/

mutual

/-- No array within the value has more elements than there are bytes from its start on, if there are
`room` bytes from the start of the value on. -/
def FitsIn : AbiValue → AbiType → (room : Nat) → Prop
  | array elems, .array elem, room =>
    elems.length ≤ room ∧
      AllFitIn elems (List.replicate elems.length elem) (room - 32) 0 (elems.length * elem.headSize)
  | fixedArray elems, .fixedArray elem _, room =>
    elems.length ≤ room ∧
      AllFitIn elems (List.replicate elems.length elem) room 0 (elems.length * elem.headSize)
  | tuple values, .tuple types, room
  | tuple values, .struct _ types, room
  | struct _ values, .struct _ types, room =>
    AllFitIn values types room 0 (types.map AbiType.headSize).sum
  | _, _, _ => True

/-- The values fit in the `room` bytes of a layout, if their heads stand at `head` and their tails
at `offset`. -/
def AllFitIn : List AbiValue → List AbiType → (room head offset : Nat) → Prop
  | v :: vs, t :: ts, room, head, offset =>
    FitsIn v t (room - if t.isDynamic then offset else head) ∧
      AllFitIn vs ts room (head + t.headSize)
        (if t.isDynamic then offset + (encodeValue v t).length else offset)
  | _, _, _, _, _ => True

end

/-! ### Values of legal and of well-formed types -/

mutual

lemma hasSizes_of_isLegal {v : AbiValue} {t : AbiType} (h : HasType v t) (ht : t.IsLegal) :
    v.HasSizes t := by
  match h with
  | .address _ | .bool _ | .uint _ _ | .int _ _ | .fixedBytes _ _ | .bytes _ | .string _ =>
    simp [HasSizes]
  | .array h =>
    rw [HasSizes]
    exact allHaveSizes_of_isLegal h (List.forall_mem_replicate.mpr (Or.inr ht.arrayElem))
  | .fixedArray _ h =>
    rw [HasSizes]
    exact allHaveSizes_of_isLegal h (List.forall_mem_replicate.mpr (Or.inr ht.fixedArrayElem))
  | .tuple h =>
    rw [HasSizes]
    exact allHaveSizes_of_isLegal h ht.tupleField
  | .tupleAsStruct _ h | .struct _ _ h =>
    rw [HasSizes]
    exact allHaveSizes_of_isLegal h ht.structField

lemma allHaveSizes_of_isLegal {vs : List AbiValue} {ts : List AbiType} (h : HaveTypes vs ts)
    (hts : ∀ t ∈ ts, t.IsLegal) : AllHaveSizes vs ts := by
  match h with
  | .nil => simp [AllHaveSizes]
  | .cons h hs =>
    rw [List.forall_mem_cons] at hts
    rw [AllHaveSizes]
    exact ⟨hts.1.headSize?_isSome, hasSizes_of_isLegal h hts.1, allHaveSizes_of_isLegal hs hts.2⟩

end

lemma AllHaveSizes.headSize?_isSome {vs : List AbiValue} {ts : List AbiType} (h : HaveTypes vs ts)
    (hsizes : AllHaveSizes vs ts) : ∀ t ∈ ts, t.headSize?.isSome := by
  induction vs generalizing ts with
  | nil =>
    cases h
    simp
  | cons v vs ih =>
    cases h with
    | cons _ hs =>
      rw [AllHaveSizes] at hsizes
      rw [List.forall_mem_cons]
      exact ⟨hsizes.1, ih hs hsizes.2.2⟩

lemma sum_headSize_replicate (count : Nat) (t : AbiType) :
    ((List.replicate count t).map AbiType.headSize).sum = count * t.headSize := by
  rw [List.map_replicate, List.sum_replicate, smul_eq_mul]

section

variable {vs : List AbiValue} {ts : List AbiType} {elems : List AbiValue} {elem : AbiType}
  {rest : Bytes}

/-- The encodings of values stand in their places from the start of the layout on. -/
lemma atFields_fields (h : HaveTypes vs ts) (hsome : ∀ t ∈ ts, t.headSize?.isSome)
    (hlen : (layOut (fields vs ts) ++ rest).length < Size.limit) :
    AtFields (layOut (fields vs ts) ++ rest) 0 (ts.map AbiType.headSize).sum (fields vs ts) := by
  rw [← headLength_fields h]
  exact atFields_layOut (isSized_fields h hsome) hlen

lemma atFields_elems (h : HaveTypes elems (List.replicate elems.length elem))
    (hsome : ∀ t ∈ List.replicate elems.length elem, t.headSize?.isSome)
    (hlen : (layOut (fields elems (List.replicate elems.length elem)) ++ rest).length <
      Size.limit) :
    AtFields (layOut (fields elems (List.replicate elems.length elem)) ++ rest) 0
      (elems.length * elem.headSize) (fields elems (List.replicate elems.length elem)) := by
  rw [← sum_headSize_replicate]
  exact atFields_fields h hsome hlen

/-- The heads of the elements are part of their layout. -/
lemma length_mul_headSize_le (h : HaveTypes elems (List.replicate elems.length elem))
    (hsome : ∀ t ∈ List.replicate elems.length elem, t.headSize?.isSome) :
    elems.length * elem.headSize ≤
      (layOut (fields elems (List.replicate elems.length elem))).length := by
  have hle := headLength_le_length_layOut (isSized_fields h hsome)
  rwa [headLength_fields h, sum_headSize_replicate] at hle

/-- As the elements take room, there are no more of them than bytes. -/
lemma length_le_of_takeRoom (h : HaveTypes elems (List.replicate elems.length elem))
    (hsome : ∀ t ∈ List.replicate elems.length elem, t.headSize?.isSome)
    (hroom : elems.length ≠ 0 → elem.headSize ≠ 0) :
    elems.length ≤ (layOut (fields elems (List.replicate elems.length elem))).length := by
  by_cases hempty : elems.length = 0
  · rw [hempty]
    exact Nat.zero_le _
  · have hpos := Nat.pos_of_ne_zero (hroom hempty)
    exact (Nat.le_mul_of_pos_right _ hpos).trans (length_mul_headSize_le h hsome)

end

mutual

/-- The elements of arrays of well-formed types take bytes, so that there is room for them wherever
the value is encoded. -/
lemma fitsIn_of_isWellFormed {v : AbiValue} {t : AbiType} (h : HasType v t) (ht : t.IsWellFormed)
    (rest : Bytes) : (encodeValue v t ++ rest).length < Size.limit →
      v.FitsIn t (encodeValue v t ++ rest).length := by
  match h with
  | .address _ | .bool _ | .uint _ _ | .int _ _ | .fixedBytes _ _ | .bytes _ | .string _ =>
    simp [FitsIn]
  | @HasType.array elems elem h =>
    intro hlen
    have hts : ∀ u ∈ List.replicate elems.length elem, u.IsWellFormed :=
      List.forall_mem_replicate.mpr (Or.inr ht.arrayElem)
    have hsome := fun u hu => (hts u hu).isLegal.headSize?_isSome
    have hcount := length_le_of_takeRoom h hsome
      (fun _ => ht.elemsTakeRoom _ (AbiType.mem_components_self _))
    rw [encodeValue, elemFields_eq, List.append_assoc, List.length_append, Bytes.length_ofNat]
      at hlen ⊢
    rw [FitsIn, Nat.add_sub_cancel_left]
    refine ⟨?_, allFitIn_of_isWellFormed h hts (atFields_elems h hsome (by omega))⟩
    rw [List.length_append]
    omega
  | @HasType.fixedArray elems elem length hlength h =>
    intro hlen
    have hts : ∀ u ∈ List.replicate elems.length elem, u.IsWellFormed :=
      List.forall_mem_replicate.mpr (Or.inr ht.fixedArrayElem)
    have hsome := fun u hu => (hts u hu).isLegal.headSize?_isSome
    have hcount :
        elems.length ≤ (layOut (fields elems (List.replicate elems.length elem))).length := by
      refine length_le_of_takeRoom h hsome fun hne => ?_
      refine ht.elemsTakeRoom _ (AbiType.mem_components_self _) ?_
      rintro rfl
      exact hne hlength
    rw [encodeValue, elemFields_eq] at hlen ⊢
    rw [FitsIn]
    refine ⟨?_, allFitIn_of_isWellFormed h hts (atFields_elems h hsome hlen)⟩
    rw [List.length_append]
    omega
  | .tuple h =>
    intro hlen
    rw [encodeValue] at hlen ⊢
    rw [FitsIn]
    have hsome := fun t ht' => (ht.tupleField t ht').isLegal.headSize?_isSome
    exact allFitIn_of_isWellFormed h ht.tupleField (atFields_fields h hsome hlen)
  | .tupleAsStruct _ h | .struct _ _ h =>
    intro hlen
    rw [encodeValue] at hlen ⊢
    rw [FitsIn]
    have hsome := fun t ht' => (ht.structField t ht').isLegal.headSize?_isSome
    exact allFitIn_of_isWellFormed h ht.structField (atFields_fields h hsome hlen)

lemma allFitIn_of_isWellFormed {vs : List AbiValue} {ts : List AbiType} (h : HaveTypes vs ts)
    (hts : ∀ t ∈ ts, t.IsWellFormed) {data : Bytes} {head offset : Nat} :
    AtFields data head offset (fields vs ts) → AllFitIn vs ts data.length head offset := by
  match h with
  | .nil => simp [AllFitIn]
  | @HaveTypes.cons v t vs ts h hs =>
    intro hat
    rw [List.forall_mem_cons] at hts
    rw [fields] at hat
    rw [AllFitIn]
    obtain ⟨rest, hdrop⟩ := hat.exists_drop_eq
    have hlen := congrArg List.length hdrop
    rw [List.length_drop] at hlen
    have hlt : (encodeValue v t ++ rest).length < Size.limit := by
      rw [← hlen]
      exact (Nat.sub_le _ _).trans_lt hat.length_lt
    have hsized := isSized_field h hts.1.isLegal.headSize?_isSome
    refine ⟨?_, allFitIn_of_isWellFormed hs hts.2 (hat.next hsized)⟩
    rw [hlen]
    exact fitsIn_of_isWellFormed h hts.1 rest hlt

end

end ContractCalls.AbiValue
