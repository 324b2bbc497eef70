import ContractCalls.Proofs.Abi.Reencoding

/-!
# Decoding static types

A value of a static type has one encoding only. What is read for it starts with just this encoding:
no word that is accepted differs from the one that is written, and each field is read where the one
before it ends. So the values fix all bytes of the head.
-/

namespace ContractCalls.Abi

open AbiValue

/-! ### Words -/

variable {data : Bytes}

lemma ofBitVec_prefix_of_readWord {word : Word} (h : readWord data 0 = .ok word) :
    Bytes.ofBitVec word <+: data := by
  rw [readWord, Except.ite_error_eq_ok_iff, List.drop_zero] at h
  obtain ⟨hle, h⟩ := h
  obtain rfl := Except.ok.inj h
  rw [Bytes.ofBitVec_toBitVec (by rw [List.length_take]; omega)]
  exact List.take_prefix 32 data

/-- An address is written with the zeros that are required in front of it. -/
lemma setWidth_setWidth_of_shift {word : Word} (h : word >>> 160 = 0) :
    (word.setWidth 160).setWidth 256 = word := by
  apply BitVec.eq_of_toNat_eq
  have hhigh := congrArg BitVec.toNat h
  rw [BitVec.toNat_ushiftRight, Nat.shiftRight_eq_div_pow] at hhigh
  have hlt := word.isLt
  simp only [BitVec.toNat_setWidth] at hhigh ⊢
  simp at hhigh
  omega

lemma ofNat_toNat_eq_one {word : Word} (h : word.toNat ≤ 1) :
    Bytes.ofNat 32 (word.toNat == 1).toNat = Bytes.ofBitVec word := by
  rw [Bytes.ofBitVec]
  congr 1
  interval_cases word.toNat <;> rfl

/-! ### Fields -/

/-- Whatever is read for the type stands at the start of the data as its encoding. -/
def ReadsExactly (t : AbiType) : Prop :=
  ∀ data w, data.length < Size.limit → decodeValue t data = .ok w → encodeValue w t <+: data

/-- The room that a value of a static type takes, if it is read exactly. -/
lemma length_encodeValue_of_decodeValue {t : AbiType} (hlegal : t.IsLegal)
    (hstatic : t.isDynamic = false) {w : AbiValue} (h : decodeValue t data = .ok w) :
    (encodeValue w t).length = t.headSize := by
  obtain ⟨n, hn⟩ := Option.isSome_iff_exists.mp hlegal.headSize?_isSome
  rw [AbiType.headSize_eq hn]
  exact length_encodeValue (isNormal_of_decodeValue t data w h).hasType hstatic hn

lemma layOut_fields_cons {t : AbiType} {ts : List AbiType}
    (hstatic : ∀ u ∈ t :: ts, u.isDynamic = false) {w : AbiValue} {ws : List AbiValue}
    (h : HaveTypes (w :: ws) (t :: ts)) :
    layOut (fields (w :: ws) (t :: ts)) = encodeValue w t ++ layOut (fields ws ts) := by
  have hfields := dynamic_eq_false_of_mem_fields h hstatic
  rw [layOut_of_static hfields]
  rw [fields, List.forall_mem_cons] at hfields
  rw [fields, List.flatMap_cons, layOut_of_static hfields.2]

/-- A static field is read at its head, and the other fields behind it. -/
lemma readFields_cons_of_static_iff {t : AbiType} (hstatic : t.isDynamic = false)
    {ts : List AbiType} {head : Nat} {w : AbiValue} {ws : List AbiValue} :
    readFields (readers (t :: ts)) data head = .ok (w :: ws) ↔
      head ≤ data.length ∧ decodeValue t (data.drop head) = .ok w ∧
        readFields (readers ts) data (Size.saturate (head + t.headSize)) = .ok ws := by
  simp only [readers, readFields, Except.bind_eq_ok_iff, Except.pure_eq_ok_iff, FieldReader.readAt,
    hstatic, Bool.false_eq_true, if_false, Except.ite_error_eq_ok_iff, List.cons.injEq]
  constructor
  · rintro ⟨w, ⟨hle, hw⟩, ws, hws, rfl, rfl⟩
    exact ⟨hle, hw, hws⟩
  · rintro ⟨hle, hw, hws⟩
    exact ⟨w, ⟨hle, hw⟩, ws, hws, rfl, rfl⟩

/-- Fields that are read exactly stand in the data one after the other. -/
lemma layOut_prefix_of_readFields {ts : List AbiType} (hlegal : ∀ t ∈ ts, t.IsLegal)
    (hstatic : ∀ t ∈ ts, t.isDynamic = false) (hexact : ∀ t ∈ ts, ReadsExactly t)
    (hlen : data.length < Size.limit) {head : Nat} {ws : List AbiValue}
    (h : readFields (readers ts) data head = .ok ws) :
    layOut (fields ws ts) <+: data.drop head := by
  have htypes := (areNormal_of_readFields (isNormal_of_mem ts) h).haveTypes
  induction ts generalizing head ws with
  | nil =>
    cases htypes
    exact List.nil_prefix
  | cons t ts ih =>
    cases htypes with
    | @cons w _ ws _ hw hws =>
      rw [layOut_fields_cons hstatic (.cons hw hws)]
      rw [List.forall_mem_cons] at hlegal hstatic hexact
      obtain ⟨hle, hread, hrest⟩ := (readFields_cons_of_static_iff hstatic.1).mp h
      have hdrop : (data.drop head).length < Size.limit := by
        rw [List.length_drop]
        omega
      obtain ⟨rest, heq⟩ := hexact.1 _ _ hdrop hread
      have hsize := length_encodeValue_of_decodeValue hlegal.1 hstatic.1 hread
      -- as the field stands in the data, the next head is no larger than a size
      have hnext : head + t.headSize ≤ data.length := by
        have hlength := congrArg List.length heq
        rw [List.length_append, List.length_drop, hsize] at hlength
        omega
      rw [saturate_of_le hnext hlen] at hrest
      have htail := ih hlegal.2 hstatic.2 hexact.2 hrest hws
      rw [← List.drop_drop, ← heq, List.drop_left' hsize] at htail
      rw [← heq]
      exact List.prefix_append_right_inj _ |>.mpr htail

/-! ### Values -/

mutual

/-- Static values are read exactly, if their types are legal in all components. -/
theorem readsExactly_of_static (t : AbiType) (hlegal : t.IsLegal) (hstatic : t.isDynamic = false) :
    ReadsExactly t := by
  intro data w hlen h
  match t with
  | .address =>
    obtain ⟨word, hword, hhigh, rfl⟩ := decodeValue_address_iff.mp h
    rw [encodeValue, setWidth_setWidth_of_shift hhigh]
    exact ofBitVec_prefix_of_readWord hword
  | .bool =>
    obtain ⟨word, hword, hle, rfl⟩ := decodeValue_bool_iff.mp h
    rw [encodeValue, ofNat_toNat_eq_one hle]
    exact ofBitVec_prefix_of_readWord hword
  | .uint bits =>
    obtain ⟨word, hword, -, rfl⟩ := decodeValue_uint_iff.mp h
    exact ofBitVec_prefix_of_readWord hword
  | .int bits =>
    obtain ⟨word, hword, -, rfl⟩ := decodeValue_int_iff.mp h
    exact ofBitVec_prefix_of_readWord hword
  | .fixedBytes size =>
    obtain ⟨word, hword, -, rfl⟩ := decodeValue_fixedBytes_iff.mp h
    exact ofBitVec_prefix_of_readWord hword
  | .bytes | .string | .array elem => simp [AbiType.isDynamic] at hstatic
  | .fixedArray elem length =>
    obtain ⟨-, elems, helems, rfl⟩ := decodeValue_fixedArray_iff.mp h
    rw [encodeValue, elemFields_eq, length_of_readFields_replicate helems]
    by_cases hempty : length = 0
    · subst hempty
      exact layOut_prefix_of_readFields (by simp) (by simp) (by simp) hlen helems
    · have helem : elem.isDynamic = false := by simpa [AbiType.isDynamic, hempty] using hstatic
      have hexact := readsExactly_of_static elem hlegal.fixedArrayElem helem
      refine layOut_prefix_of_readFields ?_ ?_ ?_ hlen helems
      · exact List.forall_mem_replicate.mpr (Or.inr hlegal.fixedArrayElem)
      · exact List.forall_mem_replicate.mpr (Or.inr helem)
      · exact List.forall_mem_replicate.mpr (Or.inr hexact)
  | .tuple types =>
    obtain ⟨values, hvalues, rfl⟩ := decodeValue_tuple_iff.mp h
    have hfields := AbiType.anyDynamic_eq_false_iff.mp hstatic
    rw [encodeValue]
    exact layOut_prefix_of_readFields hlegal.tupleField hfields
      (readsExactly_of_mem types hlegal.tupleField hfields) hlen hvalues
  | .struct name types =>
    obtain ⟨values, hvalues, rfl⟩ := decodeValue_struct_iff.mp h
    have hfields := AbiType.anyDynamic_eq_false_iff.mp hstatic
    rw [encodeValue]
    exact layOut_prefix_of_readFields hlegal.structField hfields
      (readsExactly_of_mem types hlegal.structField hfields) hlen hvalues

theorem readsExactly_of_mem (ts : List AbiType) (hlegal : ∀ t ∈ ts, t.IsLegal)
    (hstatic : ∀ t ∈ ts, t.isDynamic = false) : ∀ t ∈ ts, ReadsExactly t := by
  match ts with
  | [] => simp
  | t :: ts =>
    rw [List.forall_mem_cons] at hlegal hstatic ⊢
    exact ⟨readsExactly_of_static t hlegal.1 hstatic.1, readsExactly_of_mem ts hlegal.2 hstatic.2⟩

end

/-! ### Sequences -/

section

variable {types : List AbiType} (hlegal : ∀ t ∈ types, t.IsLegal)
  (hstatic : ∀ t ∈ types, t.isDynamic = false)

include hlegal hstatic

/-- The data start with the encoding of the values, which is as long as the heads of the types. -/
lemma layOut_prefix_of_decode (hlen : data.length < Size.limit) {values : List AbiValue}
    (h : decode data types = .ok values) : layOut (fields values types) <+: data := by
  have hexact := readsExactly_of_mem types hlegal hstatic
  rw [← List.drop_zero (l := data)]
  exact layOut_prefix_of_readFields hlegal hstatic hexact hlen h

lemma length_layOut_of_haveTypes {values : List AbiValue} (h : HaveTypes values types) :
    (layOut (fields values types)).length = (types.map AbiType.headSize).sum := by
  have hfields := dynamic_eq_false_of_mem_fields h hstatic
  have hsome := fun t ht => (hlegal t ht).headSize?_isSome
  rw [length_layOut_of_static (isSized_fields h hsome) hfields, headLength_fields h]

end

/-- Static values are decoded from just the bytes as which they are encoded, so that no other bytes
give the same values. Here `data` and `other` are byte strings whose lengths are sizes. -/
theorem decode_static {types : List AbiType} (hlegal : ∀ t ∈ types, t.IsLegal)
    (hstatic : ∀ t ∈ types, t.isDynamic = false) {data : Bytes} (hlen : data.length < Size.limit)
    {values : List AbiValue} (h : decode data types = .ok values) :
    let size := (types.map AbiType.headSize).sum
    size ≤ data.length ∧ encode values types = .ok (data.take size) ∧
      ∀ other : Bytes, other.length < Size.limit → decode other types = .ok values →
        other.take size = data.take size := by
  have htypes := (areNormal_of_decode h).haveTypes
  have hsize := length_layOut_of_haveTypes hlegal hstatic htypes
  have htake : ∀ other : Bytes, layOut (fields values types) <+: other →
      other.take (types.map AbiType.headSize).sum = layOut (fields values types) := by
    intro other hprefix
    rw [← hsize]
    exact (List.prefix_iff_eq_take.mp hprefix).symm
  have hdata := layOut_prefix_of_decode hlegal hstatic hlen h
  refine ⟨?_, ?_, ?_⟩
  · rw [← hsize]
    exact hdata.length_le
  · rw [htake data hdata]
    exact encode_eq_ok_iff.mpr ⟨htypes, rfl⟩
  · intro other hother h'
    rw [htake data hdata, htake other (layOut_prefix_of_decode hlegal hstatic hother h')]

/-- A negative number, elements of which some take no bytes, and bytes behind the head. -/
theorem decode_static_nested :
    let types : List AbiType :=
      [.int 16, .struct "Flags" [.fixedArray .bool 2, .fixedArray .string 0]]
    let data : Bytes :=
      Bytes.ofBitVec (-3 : Word) ++ Bytes.ofNat 32 1 ++ Bytes.ofNat 32 0 ++ [7]
    let values : List AbiValue :=
      [.int (-3) 16, .struct "Flags" [.fixedArray [.bool true, .bool false], .fixedArray []]]
    (∀ t ∈ types, t.IsLegal) ∧ (∀ t ∈ types, t.isDynamic = false) ∧ decode data types = .ok values ∧
      encode values types = .ok (data.take 96) := by
  intro types data values
  have hlegal : ∀ t ∈ types, t.IsLegal := by decide +kernel
  have hstatic : ∀ t ∈ types, t.isDynamic = false := by decide +kernel
  have hlen : data.length < Size.limit := by decide +kernel
  have h : decode data types = .ok values := by
    simp only [decode, types, data]
    rfl
  exact ⟨hlegal, hstatic, h, (decode_static hlegal hstatic hlen h).2.1⟩

end ContractCalls.Abi
