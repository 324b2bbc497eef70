import ContractCalls.Proofs.Abi.RoundTrip

/-!
# Which encodings are decoded

Encoding checks less than decoding. It writes `bytesN` words with any padding, arrays of elements
that take no bytes, and components whose heads are too large for a size, and decoding refuses them.
These are the only differences: whatever else is encoded is decoded.
-/

namespace ContractCalls.Abi

open AbiValue

lemma decode_eq_error {data : Bytes} {types : List AbiType} {error : AbiError}
    (h : (decode data types).map (fun _ => ()) = .error error) :
    decode data types = .error error := by
  cases hdecode : decode data types with
  | error e =>
    rw [hdecode] at h
    exact congrArg _ (Except.error.inj h)
  | ok values =>
    rw [hdecode] at h
    cases h

/-- What is encoded and not decoded: elements without bytes where no bytes follow, a word with bytes
behind those of its type, and an offset behind a head that is too large for a size. -/
theorem exists_decode_encode_error :
    (∃ data,
      encode [.fixedArray [.tuple [], .tuple [], .tuple []]] [.fixedArray (.tuple []) 3] =
        .ok data ∧
      (AbiType.fixedArray (.tuple []) 3).validate = .ok () ∧
      decode data [.fixedArray (.tuple []) 3] = .error (.bufferOverrun 0 3 0)) ∧
    (∃ data, encode [.fixedBytes (BitVec.allOnes 256) 2] [.fixedBytes 2] = .ok data ∧
      (AbiType.fixedBytes 2).validate = .ok () ∧
      decode data [.fixedBytes 2] = .error (.valueOutOfRange "bytes2")) ∧
    (let type : AbiType :=
        .tuple [.fixedArray (.fixedArray (.uint 256) 0x800000000000000) 0, .bytes]
      ∃ data, encode [.tuple [.fixedArray [], .bytes []]] [type] = .ok data ∧
        type.validate = .ok () ∧ decode data [type] = .error (.bufferOverrun Size.max 32 64)) := by
  refine ⟨⟨_, rfl, ?_, ?_⟩, ⟨_, rfl, ?_, ?_⟩, ⟨_, rfl, ?_, ?_⟩⟩
  · decide +kernel
  · exact decode_eq_error (by decide +kernel)
  · decide +kernel
  · exact decode_eq_error (by decide +kernel)
  · decide +kernel
  · exact decode_eq_error (by decide +kernel)

/-- The types of the values have sizes, as they are legal, and so have those of all values
within. -/
lemma allHaveSizes_of_validate {values : List AbiValue} {types : List AbiType}
    (hvalid : ∀ t ∈ types, t.validate = .ok ())
    (hsizes : ∀ p ∈ values.zip types, p.1.HasSizes p.2) : AllHaveSizes values types := by
  induction values generalizing types with
  | nil => simp [AllHaveSizes]
  | cons v vs ih =>
    cases types with
    | nil => simp [AllHaveSizes]
    | cons t ts =>
      rw [List.zip_cons_cons, List.forall_mem_cons] at hsizes
      rw [List.forall_mem_cons] at hvalid
      rw [AllHaveSizes]
      exact ⟨AbiType.headSize?_isSome_of_validate hvalid.1, hsizes.1, ih hvalid.2 hsizes.2⟩

/-- Whatever else is encoded is decoded. -/
theorem decode_of_encode {types : List AbiType} (hvalid : ∀ t ∈ types, t.validate = .ok ())
    {values : List AbiValue} {data : Bytes} (hencode : encode values types = .ok data)
    (hlen : data.length < Size.limit) (hpadded : ForAllLeaves IsPadded values types)
    (hsizes : ∀ p ∈ values.zip types, p.1.HasSizes p.2)
    (hfits : AllFitIn values types data.length 0 (types.map AbiType.headSize).sum) :
    decode data types = .ok (normalForms values types) := by
  obtain ⟨htyped, rfl⟩ := encode_eq_ok_iff.mp hencode
  have hsizes := allHaveSizes_of_validate hvalid hsizes
  exact (decode_layOut_iff_of_fits htyped hsizes hfits hlen _).mpr ⟨hpadded, rfl⟩

theorem decode_of_encode_empty_elements :
    let types : List AbiType := [.array (.tuple []), .fixedArray (.tuple []) 3, .fixedBytes 2]
    let values : List AbiValue :=
      [.array [.tuple [], .tuple []], .fixedArray [.tuple [], .tuple [], .tuple []],
        .fixedBytes (0xabcd <<< 240) 1]
    (∀ t ∈ types, t.validate = .ok ()) ∧ ForAllLeaves IsPadded values types ∧
      (∀ p ∈ values.zip types, p.1.HasSizes p.2) ∧
      ∃ data, encode values types = .ok data ∧ data.length = 96 ∧
        AllFitIn values types data.length 0 (types.map AbiType.headSize).sum ∧
        decode data types = .ok
          [.array [.tuple [], .tuple []], .fixedArray [.tuple [], .tuple [], .tuple []],
            .fixedBytes (0xabcd <<< 240) 2] := by
  intro types values
  have hvalid : ∀ t ∈ types, t.validate = .ok () := by decide +kernel
  have hpadded : ForAllLeaves IsPadded values types := by
    simp only [types, values, ForAllLeaves, ForLeaves, IsPadded, List.length_cons, List.length_nil,
      List.replicate, true_and, and_true]
    decide +kernel
  have hsizes : ∀ p ∈ values.zip types, p.1.HasSizes p.2 := by
    simp [types, values, HasSizes, AllHaveSizes, List.replicate, AbiType.headSize?,
      AbiType.anyDynamic, AbiType.inlineSize?]
  obtain ⟨data, hdata⟩ : ∃ data, encode values types = .ok data := ⟨_, rfl⟩
  have hlen : data.length = 96 := by
    rw [(encode_eq_ok_iff.mp hdata).2]
    decide +kernel
  have hfits : AllFitIn values types data.length 0 (types.map AbiType.headSize).sum := by
    rw [hlen]
    simp [types, values, FitsIn, AllFitIn, List.replicate, AbiType.isDynamic, AbiType.anyDynamic,
      AbiType.headSize, AbiType.headSize?, AbiType.inlineSize?, Size.check?, Size.limit]
  have hlt : data.length < Size.limit := by
    rw [hlen]
    decide
  exact ⟨hvalid, hpadded, hsizes, data, hdata, hlen, hfits,
    decode_of_encode hvalid hdata hlt hpadded hsizes hfits⟩

end ContractCalls.Abi
