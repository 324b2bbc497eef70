import ContractCalls.Proofs.Abi.Bounds

/-!
# Decoding longer data

What is read from data is read in the same way if more bytes follow them. Every bound is checked
against the length of the data, so that it still holds of longer data, and no read goes by where the
data end. Hence data that are cut off are either refused or decoded as they would be in full.
-/

namespace ContractCalls.Abi

variable {α : Type} {data : Bytes} (extra : Bytes)

/-! ### Words, sizes and slices -/

/-- Bytes within the data stay where they are. -/
lemma take_drop_append {offset length : Nat} (h : offset + length ≤ data.length) :
    ((data ++ extra).drop offset).take length = (data.drop offset).take length := by
  rw [List.drop_append_of_le_length (by omega)]
  apply List.take_append_of_le_length
  rw [List.length_drop]
  omega

lemma readWord_append {offset : Nat} {word : Word} (h : readWord data offset = .ok word) :
    readWord (data ++ extra) offset = .ok word := by
  simp only [readWord, Except.ite_error_eq_ok_iff] at h ⊢
  obtain ⟨hle, h⟩ := h
  constructor
  · rw [List.length_append]
    omega
  · rw [take_drop_append extra hle]
    exact h

lemma readSize_append {offset n : Nat} (h : readSize data offset = .ok n) :
    readSize (data ++ extra) offset = .ok n := by
  simp only [readSize, Except.bind_eq_ok_iff, Except.ite_throw_eq_ok_iff, Except.pure_eq_ok_iff,
    Bool.and_eq_true, decide_eq_true_eq] at h ⊢
  obtain ⟨word, hword, ⟨hlimit, hle⟩, rfl⟩ := h
  refine ⟨word, readWord_append extra hword, ⟨hlimit, ?_⟩, rfl⟩
  rw [List.length_append]
  omega

lemma le_length_of_readWord {offset : Nat} {word : Word} (h : readWord data offset = .ok word) :
    offset + 32 ≤ data.length :=
  (Except.ite_error_eq_ok_iff.mp h).1

/-- Behind a size at their start, longer data go on as before, and then with the other bytes. -/
lemma drop_append_of_readSize {n : Nat} (h : readSize data 0 = .ok n) :
    (data ++ extra).drop 32 = data.drop 32 ++ extra := by
  obtain ⟨word, hword, -⟩ := Except.bind_eq_ok_iff.mp h
  apply List.drop_append_of_le_length
  have hle := le_length_of_readWord hword
  omega

lemma readSlice_append {offset length : Nat} {bytes : Bytes}
    (h : readSlice data offset length = .ok bytes) :
    readSlice (data ++ extra) offset length = .ok bytes := by
  simp only [readSlice, Except.ite_error_eq_ok_iff] at h ⊢
  obtain ⟨hle, h⟩ := h
  constructor
  · rw [List.length_append]
    omega
  · rw [take_drop_append extra hle]
    exact h

lemma readBytes_append {bytes : Bytes} (h : readBytes data = .ok bytes) :
    readBytes (data ++ extra) = .ok bytes := by
  simp only [readBytes, Except.bind_eq_ok_iff] at h ⊢
  obtain ⟨length, hlength, h⟩ := h
  exact ⟨length, readSize_append extra hlength, readSlice_append extra h⟩

/-! ### Fields -/

/-- The reader takes no notice of bytes behind those from which it reads. -/
def FieldReader.IsStable (f : FieldReader α) : Prop :=
  ∀ data extra v, f.read data = .ok v → f.read (data ++ extra) = .ok v

lemma FieldReader.IsStable.readAt {f : FieldReader α} (hf : f.IsStable) {head : Nat} {v : α}
    (h : f.readAt data head = .ok v) : f.readAt (data ++ extra) head = .ok v := by
  rw [FieldReader.readAt] at h ⊢
  split at h
  · next hdyn =>
    obtain ⟨offset, hoffset, h⟩ := Except.bind_eq_ok_iff.mp h
    rw [if_pos hdyn]
    refine Except.bind_eq_ok_iff.mpr ⟨offset, readSize_append extra hoffset, ?_⟩
    rw [List.drop_append_of_le_length (le_length_of_readSize hoffset)]
    exact hf _ extra v h
  · next hdyn =>
    obtain ⟨hle, h⟩ := Except.ite_error_eq_ok_iff.mp h
    rw [if_neg hdyn, if_pos (by rw [List.length_append]; omega), List.drop_append_of_le_length hle]
    exact hf _ extra v h

lemma readFields_append {fs : List (FieldReader α)} (hfs : ∀ f ∈ fs, f.IsStable) {head : Nat}
    {vs : List α} (h : readFields fs data head = .ok vs) :
    readFields fs (data ++ extra) head = .ok vs := by
  induction fs generalizing head vs with
  | nil => exact h
  | cons f fs ih =>
    rw [List.forall_mem_cons] at hfs
    simp only [readFields, Except.bind_eq_ok_iff, Except.pure_eq_ok_iff] at h ⊢
    obtain ⟨v, hv, vs, hvs, rfl⟩ := h
    exact ⟨v, hfs.1.readAt extra hv, vs, ih hfs.2 hvs, rfl⟩

/-! ### Values -/

lemma readFields_replicate_append {t : AbiType}
    (ht : ∀ data extra w, decodeValue t data = .ok w → decodeValue t (data ++ extra) = .ok w)
    {count head : Nat} {ws : List AbiValue}
    (h : readFields (readers (List.replicate count t)) data head = .ok ws) :
    readFields (readers (List.replicate count t)) (data ++ extra) head = .ok ws := by
  rw [readers_replicate] at h ⊢
  refine readFields_append extra ?_ h
  intro f hf
  rw [List.eq_of_mem_replicate hf]
  exact ht

mutual

/-- A value is read from longer data as it was, for legal and other types alike. -/
theorem decodeValue_append (t : AbiType) (data extra : Bytes) (w : AbiValue)
    (h : decodeValue t data = .ok w) : decodeValue t (data ++ extra) = .ok w := by
  match t with
  | .address =>
    obtain ⟨word, hword, h⟩ := decodeValue_address_iff.mp h
    exact decodeValue_address_iff.mpr ⟨word, readWord_append extra hword, h⟩
  | .bool =>
    obtain ⟨word, hword, h⟩ := decodeValue_bool_iff.mp h
    exact decodeValue_bool_iff.mpr ⟨word, readWord_append extra hword, h⟩
  | .uint bits =>
    obtain ⟨word, hword, h⟩ := decodeValue_uint_iff.mp h
    exact decodeValue_uint_iff.mpr ⟨word, readWord_append extra hword, h⟩
  | .int bits =>
    obtain ⟨word, hword, h⟩ := decodeValue_int_iff.mp h
    exact decodeValue_int_iff.mpr ⟨word, readWord_append extra hword, h⟩
  | .fixedBytes size =>
    obtain ⟨word, hword, h⟩ := decodeValue_fixedBytes_iff.mp h
    exact decodeValue_fixedBytes_iff.mpr ⟨word, readWord_append extra hword, h⟩
  | .bytes =>
    obtain ⟨bytes, hbytes, h⟩ := decodeValue_bytes_iff.mp h
    exact decodeValue_bytes_iff.mpr ⟨bytes, readBytes_append extra hbytes, h⟩
  | .string =>
    obtain ⟨bytes, hbytes, h⟩ := decodeValue_string_iff.mp h
    exact decodeValue_string_iff.mpr ⟨bytes, readBytes_append extra hbytes, h⟩
  | .array elem =>
    obtain ⟨count, hcount, hneeded, elems, helems, h⟩ := decodeValue_array_iff.mp h
    apply decodeValue_array_iff.mpr
    rw [drop_append_of_readSize extra hcount]
    refine ⟨count, readSize_append extra hcount, ?_, elems, ?_, h⟩
    · rw [List.length_append]
      omega
    · exact readFields_replicate_append extra (decodeValue_append elem) helems
  | .fixedArray elem length =>
    obtain ⟨hneeded, elems, helems, h⟩ := decodeValue_fixedArray_iff.mp h
    apply decodeValue_fixedArray_iff.mpr
    refine ⟨?_, elems, ?_, h⟩
    · rw [List.length_append]
      omega
    · exact readFields_replicate_append extra (decodeValue_append elem) helems
  | .tuple types =>
    obtain ⟨values, hvalues, h⟩ := decodeValue_tuple_iff.mp h
    exact decodeValue_tuple_iff.mpr
      ⟨values, readFields_append extra (isStable_readers types) hvalues, h⟩
  | .struct name types =>
    obtain ⟨values, hvalues, h⟩ := decodeValue_struct_iff.mp h
    exact decodeValue_struct_iff.mpr
      ⟨values, readFields_append extra (isStable_readers types) hvalues, h⟩

theorem isStable_readers (ts : List AbiType) : ∀ f ∈ readers ts, f.IsStable := by
  match ts with
  | [] => simp [readers]
  | t :: ts =>
    rw [readers, List.forall_mem_cons]
    exact ⟨decodeValue_append t, isStable_readers ts⟩

end

lemma decode_append {types : List AbiType} {values : List AbiValue}
    (h : decode data types = .ok values) : decode (data ++ extra) types = .ok values :=
  readFields_append extra (isStable_readers types) h

/-- Values that are decoded stay the same whatever bytes follow the data. So from the first bytes of
some data the values of the whole are decoded, or none. -/
theorem decode_stable (types : List AbiType) (data : Bytes) :
    (∀ values, decode data types = .ok values →
      ∀ extra, decode (data ++ extra) types = .ok values) ∧
      ∀ n, decode (data.take n) types = decode data types ∨
        ∃ error, decode (data.take n) types = .error error := by
  constructor
  · intro values h extra
    exact decode_append extra h
  · intro n
    cases h : decode (data.take n) types with
    | error error => exact Or.inr ⟨error, rfl⟩
    | ok values =>
      left
      have hwhole := decode_append (data.drop n) h
      rw [List.take_append_drop] at hwhole
      exact hwhole.symm

/-- A type that is not legal, elements that take no bytes, and a text behind which another one could
go on. -/
theorem decode_stable_illegal :
    let types : List AbiType := [.fixedBytes 40, .string, .fixedArray (.tuple []) 2]
    let data : Bytes := Bytes.ofNat 32 5 ++ Bytes.ofNat 32 64 ++ Bytes.ofNat 32 1 ++ [0x61]
    let values : List AbiValue :=
      [.fixedBytes 5 40, .string "a", .fixedArray [.tuple [], .tuple []]]
    decode data types = .ok values ∧ decode (data ++ [0x62, 0x63]) types = .ok values := by
  intro types data values
  have h : decode data types = .ok values := by
    simp only [decode, types, data]
    rfl
  exact ⟨h, (decode_stable types data).1 values h _⟩

end ContractCalls.Abi
