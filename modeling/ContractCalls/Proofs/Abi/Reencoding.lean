import ContractCalls.Proofs.Abi.RoundTrip

/-!
# Encoding what was decoded

Decoding accepts more than encodings: offsets may point anywhere, and data between and behind the
fields are passed over. Yet every value that it returns has its type, is in normal form and has
padded words, so that it can be encoded and read again.
-/

namespace ContractCalls.Abi

open AbiValue

/-- A value of a type, in normal form and with padded words. -/
structure IsNormal (v : AbiValue) (t : AbiType) : Prop where
  hasType : HasType v t
  isPadded : v.ForLeaves IsPadded t
  normalForm_eq : v.normalForm t = v

/-- Values of the types at their places, in normal form and with padded words. -/
structure AreNormal (vs : List AbiValue) (ts : List AbiType) : Prop where
  haveTypes : HaveTypes vs ts
  isPadded : ForAllLeaves IsPadded vs ts
  normalForms_eq : normalForms vs ts = vs

lemma AreNormal.nil : AreNormal [] [] :=
  ⟨.nil, by simp [ForAllLeaves], by simp [normalForms]⟩

lemma AreNormal.cons {v : AbiValue} {t : AbiType} {vs : List AbiValue} {ts : List AbiType}
    (h : IsNormal v t) (hs : AreNormal vs ts) : AreNormal (v :: vs) (t :: ts) where
  haveTypes := .cons h.hasType hs.haveTypes
  isPadded := by
    rw [ForAllLeaves]
    exact ⟨h.isPadded, hs.isPadded⟩
  normalForms_eq := by rw [normalForms, h.normalForm_eq, hs.normalForms_eq]

/-- Fields that are normal one by one are normal together. -/
lemma areNormal_of_readFields {ts : List AbiType}
    (hts : ∀ t ∈ ts, ∀ data w, decodeValue t data = .ok w → IsNormal w t) {data : Bytes}
    {head : Nat} {ws : List AbiValue} (h : readFields (readers ts) data head = .ok ws) :
    AreNormal ws ts := by
  have hread := forall₂_of_readFields h
  clear h
  induction hread with
  | nil => exact .nil
  | cons hw _ ih =>
    rw [List.forall_mem_cons] at hts
    obtain ⟨k, hw⟩ := hw
    exact .cons (hts.1 _ _ hw) (ih hts.2)

/-- The elements of an array are normal if whatever is read as one of them is. -/
lemma areNormal_of_replicate {t : AbiType}
    (ht : ∀ data w, decodeValue t data = .ok w → IsNormal w t) {count : Nat} {data : Bytes}
    {head : Nat} {ws : List AbiValue}
    (h : readFields (readers (List.replicate count t)) data head = .ok ws) :
    AreNormal ws (List.replicate ws.length t) := by
  rw [length_of_readFields_replicate h]
  refine areNormal_of_readFields ?_ h
  intro u hu
  rw [List.eq_of_mem_replicate hu]
  exact ht

mutual

/-- Whatever the data are, the value read from them is normal. -/
theorem isNormal_of_decodeValue (t : AbiType) (data : Bytes) (w : AbiValue)
    (h : decodeValue t data = .ok w) : IsNormal w t := by
  match t with
  | .address =>
    obtain ⟨word, -, -, rfl⟩ := decodeValue_address_iff.mp h
    exact ⟨.address _, by simp [ForLeaves, IsPadded], by simp [normalForm]⟩
  | .bool =>
    obtain ⟨word, -, -, rfl⟩ := decodeValue_bool_iff.mp h
    exact ⟨.bool _, by simp [ForLeaves, IsPadded], by simp [normalForm]⟩
  | .uint bits =>
    obtain ⟨word, -, htype, rfl⟩ := decodeValue_uint_iff.mp h
    exact ⟨htype, by simp [ForLeaves, IsPadded], by simp [normalForm]⟩
  | .int bits =>
    obtain ⟨word, -, htype, rfl⟩ := decodeValue_int_iff.mp h
    exact ⟨htype, by simp [ForLeaves, IsPadded], by simp [normalForm]⟩
  | .fixedBytes size =>
    obtain ⟨word, -, hpad, rfl⟩ := decodeValue_fixedBytes_iff.mp h
    exact ⟨.fixedBytes _ le_rfl, by simpa only [ForLeaves, IsPadded] using hpad,
      by simp [normalForm]⟩
  | .bytes =>
    obtain ⟨bytes, -, rfl⟩ := decodeValue_bytes_iff.mp h
    exact ⟨.bytes _, by simp [ForLeaves, IsPadded], by simp [normalForm]⟩
  | .string =>
    obtain ⟨bytes, -, text, -, rfl⟩ := decodeValue_string_iff.mp h
    exact ⟨.string _, by simp [ForLeaves, IsPadded], by simp [normalForm]⟩
  | .array elem =>
    obtain ⟨count, -, -, elems, helems, rfl⟩ := decodeValue_array_iff.mp h
    have hnormal := areNormal_of_replicate (isNormal_of_decodeValue elem) helems
    exact ⟨.array hnormal.haveTypes, by rw [ForLeaves]; exact hnormal.isPadded,
      by rw [normalForm, hnormal.normalForms_eq]⟩
  | .fixedArray elem length =>
    obtain ⟨-, elems, helems, rfl⟩ := decodeValue_fixedArray_iff.mp h
    have hnormal := areNormal_of_replicate (isNormal_of_decodeValue elem) helems
    have hlength := length_of_readFields_replicate helems
    exact ⟨.fixedArray hlength hnormal.haveTypes, by rw [ForLeaves]; exact hnormal.isPadded,
      by rw [normalForm, hnormal.normalForms_eq]⟩
  | .tuple types =>
    obtain ⟨values, hvalues, rfl⟩ := decodeValue_tuple_iff.mp h
    have hnormal := areNormal_of_readFields (isNormal_of_mem types) hvalues
    exact ⟨.tuple hnormal.haveTypes, by rw [ForLeaves]; exact hnormal.isPadded,
      by rw [normalForm, hnormal.normalForms_eq]⟩
  | .struct name types =>
    obtain ⟨values, hvalues, rfl⟩ := decodeValue_struct_iff.mp h
    have hnormal := areNormal_of_readFields (isNormal_of_mem types) hvalues
    exact ⟨.struct name name hnormal.haveTypes, by rw [ForLeaves]; exact hnormal.isPadded,
      by rw [normalForm, hnormal.normalForms_eq]⟩

theorem isNormal_of_mem (ts : List AbiType) :
    ∀ t ∈ ts, ∀ data w, decodeValue t data = .ok w → IsNormal w t := by
  match ts with
  | [] => simp
  | t :: ts => exact List.forall_mem_cons.mpr ⟨isNormal_of_decodeValue t, isNormal_of_mem ts⟩

end

lemma areNormal_of_decode {data : Bytes} {types : List AbiType} {values : List AbiValue}
    (h : decode data types = .ok values) : AreNormal values types :=
  areNormal_of_readFields (isNormal_of_mem types) h

/-- An encoding that is decoded at all is the encoding of the decoded values. -/
lemma encode_of_decode_encode {types : List AbiType} (hts : ∀ t ∈ types, t.IsWellFormed)
    {origin values : List AbiValue} {data : Bytes} (hencode : encode origin types = .ok data)
    (hlen : data.length < Size.limit) (hdecode : decode data types = .ok values) :
    encode values types = .ok data := by
  obtain ⟨htyped, rfl⟩ := encode_eq_ok_iff.mp hencode
  obtain ⟨-, rfl⟩ := (decode_layOut_iff htyped hts hlen values).mp hdecode
  exact encode_eq_ok_iff.mpr ⟨haveTypes_normalForms htyped, by rw [fields_normalForms htyped]⟩

/-- Decoded values can be encoded: they have the widths of their types, and their encoding is read
as the same values again. If they were read from an encoding it is the same one. Here `data` is a
byte string whose length is a size. -/
theorem encode_decode {types : List AbiType} (hts : ∀ t ∈ types, t.IsWellFormed) {data : Bytes}
    {values : List AbiValue} (h : decode data types = .ok values) :
    ∃ encoded, encode values types = .ok encoded ∧
      ForAllLeaves HasWidth values types ∧
      (encoded.length < Size.limit → decode encoded types = .ok values) ∧
      ∀ origin, encode origin types = .ok data → data.length < Size.limit → encoded = data := by
  have hnormal := areNormal_of_decode h
  have hencode := encode_eq_ok_iff.mpr ⟨hnormal.haveTypes, rfl⟩
  refine ⟨_, hencode, ?_, fun hlen => ?_, fun origin horigin hlen => ?_⟩
  · rw [← hnormal.normalForms_eq]
    exact hasWidth_normalForms hnormal.haveTypes
  · rw [decode_layOut_iff hnormal.haveTypes hts hlen]
    exact ⟨hnormal.isPadded, hnormal.normalForms_eq.symm⟩
  · have hsame := encode_of_decode_encode hts horigin hlen h
    exact Except.ok.inj (hencode.symm.trans hsame)

/-- Two strings whose offsets point to the same bytes, with text instead of padding, and bytes that
nothing refers to. -/
theorem encode_decode_shared :
    let types : List AbiType := [.string, .string]
    let data : Bytes :=
      Bytes.ofNat 32 64 ++ Bytes.ofNat 32 64 ++ Bytes.ofNat 32 1 ++ [0x61, 0x62, 0x63]
    (∀ t ∈ types, t.IsWellFormed) ∧ decode data types = .ok [.string "a", .string "a"] ∧
      ∃ encoded, encode [.string "a", .string "a"] types = .ok encoded ∧ encoded ≠ data ∧
        decode encoded types = .ok [.string "a", .string "a"] := by
  intro types data
  have hts : ∀ t ∈ types, t.IsWellFormed := by decide +kernel
  have hdecode : decode data types = .ok [.string "a", .string "a"] := by
    simp only [decode, types, data]
    rfl
  obtain ⟨encoded, hencode, -, hagain, -⟩ := encode_decode hts hdecode
  have hlayout := (encode_eq_ok_iff.mp hencode).2
  have hlen : encoded.length = 192 := by
    rw [hlayout]
    decide +kernel
  refine ⟨hts, hdecode, encoded, hencode, ?_, hagain (by rw [hlen]; decide)⟩
  intro heq
  rw [heq] at hlen
  exact absurd hlen (by decide +kernel)

end ContractCalls.Abi
