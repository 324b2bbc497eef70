import ContractCalls.Function
import ContractCalls.Proofs.Abi.Decoding
import ContractCalls.Proofs.Abi.NormalForm
import ContractCalls.Proofs.Abi.Room

/-!
# Decoding what was encoded

An encoded value is read back in its normal form, whatever bytes follow it, if its `bytesN` words
are padded with zeros; with other padding it is refused. For this there has to be room for the
elements of its arrays, as there is if the types are well-formed, and the buffer has to be shorter
than `2 ^ 64` bytes.
-/

namespace ContractCalls.Abi

open AbiValue

/-! ### Values without components -/

lemma readBytes_encoding {data rest : Bytes}
    (hlen : (Bytes.ofNat 32 data.length ++ data.padRight ++ rest).length < Size.limit) :
    readBytes (Bytes.ofNat 32 data.length ++ data.padRight ++ rest) = .ok data := by
  simp only [List.length_append, Bytes.padRight, Bytes.length_ofNat] at hlen
  have hword : readWord (Bytes.ofNat 32 data.length ++ data.padRight ++ rest) 0 =
      .ok (BitVec.ofNat 256 data.length) := by
    rw [List.append_assoc, readWord_ofNat]
  refine readBytes_eq_ok_iff.mpr ⟨data.length, ?_, ?_, ?_⟩
  · refine readSize_eq hword (by omega) ?_
    simp only [List.length_append, Bytes.padRight]
    omega
  · simp only [List.length_append, Bytes.padRight, Bytes.length_ofNat]
    omega
  · rw [List.append_assoc, List.drop_left' (Bytes.length_ofNat 32 _), Bytes.padRight,
      List.append_assoc, List.take_left]

lemma decodeValue_address (account : Address) (rest : Bytes) (w : AbiValue) :
    decodeValue .address (Bytes.ofBitVec (account.setWidth 256) ++ rest) = .ok w ↔
      w = .address account := by
  have hhigh : account.setWidth 256 >>> 160 = 0 := by
    apply BitVec.eq_of_toNat_eq
    have := account.isLt
    simp [BitVec.toNat_setWidth, Nat.shiftRight_eq_div_pow]
    omega
  have hlow : (account.setWidth 256).setWidth 160 = account := by
    rw [BitVec.setWidth_setWidth_of_le _ (by decide), BitVec.setWidth_eq]
  simp only [decodeValue_address_iff, readWord_ofBitVec, Except.ok.injEq, exists_eq_left',
    hhigh, hlow, true_and]

lemma decodeValue_bool (flag : Bool) (rest : Bytes) (w : AbiValue) :
    decodeValue .bool (Bytes.ofNat 32 flag.toNat ++ rest) = .ok w ↔ w = .bool flag := by
  simp only [decodeValue_bool_iff, readWord_ofNat, Except.ok.injEq, exists_eq_left']
  cases flag <;> simp

/-! ### Arrays -/

lemma saturate_le (n : Nat) : Size.saturate n ≤ n :=
  Nat.min_le_left _ _

section

variable {count : Nat} {elem : AbiType} {data : Bytes} (w : AbiValue)

/-- If there are as many bytes as elements, and as many as the heads take, an array is read by
reading its elements. -/
lemma decodeValue_array_append_iff (hcount : count ≤ 32 + data.length)
    (hlen : 32 + data.length < Size.limit) (hheads : count * elem.headSize ≤ data.length) :
    decodeValue (.array elem) (Bytes.ofNat 32 count ++ data) = .ok w ↔
      ∃ ws, readFields (readers (List.replicate count elem)) data 0 = .ok ws ∧ w = .array ws := by
  have hsize : readSize (Bytes.ofNat 32 count ++ data) 0 = .ok count := by
    refine readSize_eq (readWord_ofNat _ _) (by omega) ?_
    rw [List.length_append, Bytes.length_ofNat]
    exact hcount
  simp only [decodeValue_array_iff, hsize, Except.ok.injEq, exists_eq_left',
    List.drop_left' (Bytes.length_ofNat 32 _), (saturate_le _).trans hheads, true_and]

/-- The same for a fixed array. -/
lemma decodeValue_fixedArray_iff_readFields {length : UInt64} (hlength : count = length.toNat)
    (hcount : count ≤ data.length) (hheads : count * elem.headSize ≤ data.length) :
    decodeValue (.fixedArray elem length) data = .ok w ↔
      ∃ ws, readFields (readers (List.replicate count elem)) data 0 = .ok ws ∧
        w = .fixedArray ws := by
  have hneeded : count * max elem.headSize 1 ≤ data.length := by
    rcases Nat.eq_zero_or_pos elem.headSize with hzero | hpos
    · rw [hzero, Nat.zero_max, Nat.mul_one]
      exact hcount
    · rw [max_eq_left hpos]
      exact hheads
  rw [decodeValue_fixedArray_iff, ← hlength]
  simp only [(saturate_le _).trans hneeded, true_and]

end

/-! ### All values -/

mutual

/-- An encoded value with bytes behind it is read just in case its words are padded, and then in its
normal form, if there is room for its arrays. -/
theorem decodeValue_encodeValue_iff {v : AbiValue} {t : AbiType} (h : HasType v t)
    (hsizes : v.HasSizes t) (rest : Bytes) (w : AbiValue) :
    (encodeValue v t ++ rest).length < Size.limit → v.FitsIn t (encodeValue v t ++ rest).length →
      (decodeValue t (encodeValue v t ++ rest) = .ok w ↔
        v.ForLeaves IsPadded t ∧ w = v.normalForm t) := by
  match h with
  | .address account =>
    intro _ _
    simp only [encodeValue, decodeValue_address, normalForm, ForLeaves, IsPadded, true_and]
  | .bool flag =>
    intro _ _
    simp only [encodeValue, decodeValue_bool, normalForm, ForLeaves, IsPadded, true_and]
  | @HasType.uint value bits width h =>
    intro _ _
    simp only [encodeValue, decodeValue_uint_iff, readWord_ofBitVec, Except.ok.injEq,
      exists_eq_left', HasType.uint bits h, normalForm, ForLeaves, IsPadded, true_and]
  | @HasType.int value bits width h =>
    intro _ _
    simp only [encodeValue, decodeValue_int_iff, readWord_ofBitVec, Except.ok.injEq,
      exists_eq_left', HasType.int bits h, normalForm, ForLeaves, IsPadded, true_and]
  | .fixedBytes word h =>
    intro _ _
    simp only [encodeValue, decodeValue_fixedBytes_iff, readWord_ofBitVec, Except.ok.injEq,
      exists_eq_left', normalForm, ForLeaves, IsPadded]
  | .bytes data =>
    intro hlen _
    rw [encodeValue] at hlen ⊢
    simp only [decodeValue_bytes_iff, readBytes_encoding hlen, Except.ok.injEq, exists_eq_left',
      normalForm, ForLeaves, IsPadded, true_and]
  | .string text =>
    intro hlen _
    rw [encodeValue] at hlen ⊢
    simp only [decodeValue_string_iff, readBytes_encoding hlen, Except.ok.injEq, exists_eq_left',
      Bytes.text?_ofText, Option.some.injEq, normalForm, ForLeaves, IsPadded, true_and]
  | @HasType.array elems elem h =>
    intro hlen hfits
    rw [encodeValue, elemFields_eq, List.append_assoc, List.length_append, Bytes.length_ofNat]
      at hlen hfits
    rw [FitsIn, Nat.add_sub_cancel_left] at hfits
    rw [HasSizes] at hsizes
    have hsome := hsizes.headSize?_isSome h
    have hat := atFields_elems h hsome (lt_of_le_of_lt (Nat.le_add_left _ _) hlen)
    have hheads := (length_mul_headSize_le h hsome).trans (List.prefix_append _ rest).length_le
    rw [encodeValue, elemFields_eq, List.append_assoc,
      decodeValue_array_append_iff w hfits.1 hlen hheads]
    simp only [readFields_fields_iff h hsizes _ hat hfits.2, normalForm, ForLeaves, and_assoc,
      exists_and_left, exists_eq_left]
  | @HasType.fixedArray elems elem length hlength h =>
    intro hlen hfits
    rw [encodeValue, elemFields_eq] at hlen hfits ⊢
    rw [FitsIn] at hfits
    rw [HasSizes] at hsizes
    have hsome := hsizes.headSize?_isSome h
    have hat := atFields_elems h hsome hlen
    have hheads := (length_mul_headSize_le h hsome).trans (List.prefix_append _ rest).length_le
    rw [decodeValue_fixedArray_iff_readFields w hlength hfits.1 hheads]
    simp only [readFields_fields_iff h hsizes _ hat hfits.2, normalForm, ForLeaves, and_assoc,
      exists_and_left, exists_eq_left]
  | .tuple h =>
    intro hlen hfits
    rw [encodeValue] at hlen hfits ⊢
    rw [FitsIn] at hfits
    rw [HasSizes] at hsizes
    have hat := atFields_fields h (hsizes.headSize?_isSome h) hlen
    simp only [decodeValue_tuple_iff, readFields_fields_iff h hsizes _ hat hfits, normalForm,
      ForLeaves, and_assoc, exists_and_left, exists_eq_left]
  | .tupleAsStruct name h | .struct given name h =>
    intro hlen hfits
    rw [encodeValue] at hlen hfits ⊢
    rw [FitsIn] at hfits
    rw [HasSizes] at hsizes
    have hat := atFields_fields h (hsizes.headSize?_isSome h) hlen
    simp only [decodeValue_struct_iff, readFields_fields_iff h hsizes _ hat hfits, normalForm,
      ForLeaves, and_assoc, exists_and_left, exists_eq_left]

/-- Values are read one after the other from their places in a layout. -/
theorem readFields_fields_iff {vs : List AbiValue} {ts : List AbiType} (h : HaveTypes vs ts)
    (hsizes : AllHaveSizes vs ts) (ws : List AbiValue) {data : Bytes} {head offset : Nat} :
    AtFields data head offset (fields vs ts) → AllFitIn vs ts data.length head offset →
      (readFields (readers ts) data head = .ok ws ↔
        ForAllLeaves IsPadded vs ts ∧ ws = normalForms vs ts) := by
  match h with
  | .nil =>
    intro _ _
    simp only [readers, readFields, ForAllLeaves, normalForms, true_and, Except.ok.injEq]
    exact eq_comm
  | @HaveTypes.cons v t vs ts h hs =>
    intro hat hfits
    rw [fields] at hat
    rw [AllFitIn] at hfits
    rw [AllHaveSizes] at hsizes
    obtain ⟨hsome, hsize, hsizes⟩ := hsizes
    have hnext := hat.next (isSized_field h hsome)
    obtain ⟨rest, hdrop⟩ := hat.exists_drop_eq
    have hlen := congrArg List.length hdrop
    rw [List.length_drop] at hlen
    rw [hlen] at hfits
    have hlt : (encodeValue v t ++ rest).length < Size.limit := by
      rw [← hlen]
      exact (Nat.sub_le _ _).trans_lt hat.length_lt
    have hread :
        ∀ w, FieldReader.readAt ⟨t.isDynamic, t.headSize, decodeValue t⟩ data head = .ok w ↔
        v.ForLeaves IsPadded t ∧ w = v.normalForm t := by
      intro w
      rw [hat.readAt_eq rfl, hdrop]
      exact decodeValue_encodeValue_iff h hsize rest w hlt hfits.1
    rw [readers, readFields, Except.bind_eq_ok_iff, hnext.saturate_eq]
    simp only [Except.bind_eq_ok_iff, Except.pure_eq_ok_iff, hread,
      readFields_fields_iff hs hsizes _ hnext hfits.2, ForAllLeaves, normalForms]
    constructor
    · rintro ⟨w, ⟨hv, rfl⟩, ws, ⟨hvs, rfl⟩, rfl⟩
      exact ⟨⟨hv, hvs⟩, rfl⟩
    · rintro ⟨⟨hv, hvs⟩, rfl⟩
      exact ⟨_, ⟨hv, rfl⟩, _, ⟨hvs, rfl⟩, rfl⟩

end

/-! ### Sequences and calldata -/

lemma encode_eq_ok_iff {values : List AbiValue} {types : List AbiType} {data : Bytes} :
    encode values types = .ok data ↔
      HaveTypes values types ∧ data = layOut (fields values types) := by
  rw [encode, Except.bind_eq_ok_iff]
  constructor
  · rintro ⟨⟨⟩, h, heq⟩
    exact ⟨checkTypes_eq_ok_iff.mp h, Except.pure_eq_ok_iff.mp heq⟩
  · rintro ⟨h, rfl⟩
    exact ⟨(), checkTypes_eq_ok_iff.mpr h, rfl⟩

/-- The encoding of values is read just in case their words are padded, and then as their normal
forms, if there is room for their arrays. -/
theorem decode_layOut_iff_of_fits {values : List AbiValue} {types : List AbiType}
    (h : HaveTypes values types) (hsizes : AllHaveSizes values types)
    (hfits : AllFitIn values types (layOut (fields values types)).length 0
      (types.map AbiType.headSize).sum)
    (hlen : (layOut (fields values types)).length < Size.limit) (ws : List AbiValue) :
    decode (layOut (fields values types)) types = .ok ws ↔
      ForAllLeaves IsPadded values types ∧ ws = normalForms values types := by
  rw [← List.append_nil (layOut (fields values types))] at hlen hfits ⊢
  exact readFields_fields_iff h hsizes ws (atFields_fields h (hsizes.headSize?_isSome h) hlen) hfits

theorem decode_layOut_iff {values : List AbiValue} {types : List AbiType}
    (h : HaveTypes values types) (hts : ∀ t ∈ types, t.IsWellFormed)
    (hlen : (layOut (fields values types)).length < Size.limit) (ws : List AbiValue) :
    decode (layOut (fields values types)) types = .ok ws ↔
      ForAllLeaves IsPadded values types ∧ ws = normalForms values types := by
  have hsizes := allHaveSizes_of_isLegal h (fun t ht => (hts t ht).isLegal)
  have hlen' := hlen
  rw [← List.append_nil (layOut (fields values types))] at hlen'
  have hfits := allFitIn_of_isWellFormed h hts (atFields_fields h (hsizes.headSize?_isSome h) hlen')
  rw [List.append_nil] at hfits
  exact decode_layOut_iff_of_fits h hsizes hfits hlen ws

lemma decodeInput_selector_append (f : AbiFunction) (data : Bytes) :
    f.decodeInput (Bytes.ofBitVec f.selector ++ data) = decode data f.inputs := by
  rw [AbiFunction.decodeInput, if_neg (Bytes.four_le_length_selector_append _ _).not_gt]
  simp only [Bytes.toBitVec_take_selector_append, Bytes.drop_selector_append, if_true]

lemma decodeInput_eq {f : AbiFunction} {args : List AbiValue} {calldata : Bytes}
    (h : f.encodeCall args = .ok calldata) : ∃ data, encode args f.inputs = .ok data ∧
      f.decodeInput calldata = decode data f.inputs := by
  rw [AbiFunction.encodeCall, Except.bind_eq_ok_iff] at h
  obtain ⟨data, hdata, h⟩ := h
  obtain rfl := Except.pure_eq_ok_iff.mp h
  exact ⟨data, hdata, decodeInput_selector_append f data⟩

/-- Values of well-formed types are encoded, and what is read from the encoding are their normal
forms if their words are padded. The same goes for the calldata of a function. -/
theorem decode_encode {types : List AbiType} (hts : ∀ t ∈ types, t.IsWellFormed)
    {values : List AbiValue} (hvalues : checkTypes values types = .ok ())
    (hpadded : ForAllLeaves IsPadded values types) :
    ∃ data, encode values types = .ok data ∧ (data.length < Size.limit →
      decode data types = .ok (normalForms values types) ∧
      ∀ f : AbiFunction, f.inputs = types → ∃ calldata, f.encodeCall values = .ok calldata ∧
        f.decodeInput calldata = .ok (normalForms values types)) := by
  have htyped := checkTypes_eq_ok_iff.mp hvalues
  have hencode := encode_eq_ok_iff.mpr ⟨htyped, rfl⟩
  refine ⟨_, hencode, fun hlen => ?_⟩
  have hdecode := (decode_layOut_iff htyped hts hlen _).mpr ⟨hpadded, rfl⟩
  refine ⟨hdecode, ?_⟩
  rintro f rfl
  have hcall :
      f.encodeCall values = .ok (Bytes.ofBitVec f.selector ++ layOut (fields values f.inputs)) :=
    Except.bind_eq_ok_iff.mpr ⟨_, hencode, rfl⟩
  obtain ⟨data, hdata, hinput⟩ := decodeInput_eq hcall
  obtain rfl := Except.ok.inj (hencode.symm.trans hdata)
  exact ⟨_, hcall, hinput.trans hdecode⟩

theorem decode_encode_mixed :
    let types : List AbiType :=
      [.uint 8, .struct "Pair" [.fixedBytes 2, .fixedArray (.int 16) 2],
        .array (.tuple [.bool, .string]), .fixedArray .bytes 0]
    let values : List AbiValue :=
      [.uint 200 256,
        .tuple [.fixedBytes (0xabcd <<< 240) 1, .fixedArray [.int (-3) 8, .int 7 256]],
        .array [.tuple [.bool true, .string "a"]], .fixedArray []]
    (∀ t ∈ types, t.IsWellFormed) ∧ checkTypes values types = .ok () ∧
      ForAllLeaves IsPadded values types ∧
      ∃ data, encode values types = .ok data ∧ decode data types = .ok
        [.uint 200 8,
          .struct "Pair" [.fixedBytes (0xabcd <<< 240) 2, .fixedArray [.int (-3) 16, .int 7 16]],
          .array [.tuple [.bool true, .string "a"]], .fixedArray []] := by
  intro types values
  have hts : ∀ t ∈ types, t.IsWellFormed := by decide +kernel
  have hvalues : checkTypes values types = .ok () := by decide +kernel
  have hpadded : ForAllLeaves IsPadded values types := by
    simp only [types, values, ForAllLeaves, ForLeaves, IsPadded, List.length_cons, List.length_nil,
      List.replicate, true_and, and_true]
    decide +kernel
  obtain ⟨data, hdata, h⟩ := decode_encode hts hvalues hpadded
  have hlen : data.length < Size.limit := by
    rw [(encode_eq_ok_iff.mp hdata).2]
    decide +kernel
  exact ⟨hts, hvalues, hpadded, data, hdata, (h hlen).1⟩

end ContractCalls.Abi
