import ContractCalls.Proofs.Abi.Decoding

/-!
# Bounds of decoded values

Nothing in a decoded value is longer than the data that it was read from, whatever lengths and
counts the data announce and whatever lengths the types have.
-/

namespace ContractCalls.AbiValue

mutual

/-- No byte string, text or array within the value has more than `n` bytes or elements. -/
def IsWithin (n : Nat) : AbiValue → Prop
  | bytes data => data.length ≤ n
  | string text => (Bytes.ofText text).length ≤ n
  | array elems | fixedArray elems => elems.length ≤ n ∧ AreWithin n elems
  | tuple fields | struct _ fields => AreWithin n fields
  | address _ | bool _ | uint _ _ | int _ _ | fixedBytes _ _ => True

def AreWithin (n : Nat) : List AbiValue → Prop
  | [] => True
  | v :: vs => v.IsWithin n ∧ AreWithin n vs

end

mutual

lemma IsWithin.mono {m n : Nat} (hmn : m ≤ n) {v : AbiValue} (h : v.IsWithin m) : v.IsWithin n := by
  match v with
  | .address _ | .bool _ | .uint _ _ | .int _ _ | .fixedBytes _ _ => simp [IsWithin]
  | .bytes _ | .string _ =>
    rw [IsWithin] at h ⊢
    exact h.trans hmn
  | .array elems | .fixedArray elems =>
    rw [IsWithin] at h ⊢
    exact ⟨h.1.trans hmn, AreWithin.mono hmn h.2⟩
  | .tuple fields | .struct _ fields =>
    rw [IsWithin] at h ⊢
    exact AreWithin.mono hmn h

lemma AreWithin.mono {m n : Nat} (hmn : m ≤ n) {vs : List AbiValue} (h : AreWithin m vs) :
    AreWithin n vs := by
  match vs with
  | [] => rw [AreWithin]; trivial
  | v :: vs =>
    rw [AreWithin] at h ⊢
    exact ⟨h.1.mono hmn, AreWithin.mono hmn h.2⟩

end

lemma areWithin_iff {n : Nat} {vs : List AbiValue} : AreWithin n vs ↔ ∀ v ∈ vs, v.IsWithin n := by
  induction vs with
  | nil => simp [AreWithin]
  | cons v vs ih => rw [AreWithin, ih, List.forall_mem_cons]

end ContractCalls.AbiValue

namespace ContractCalls.Abi

open AbiValue

/-! ### Lengths and counts -/

lemma le_length_of_readSize {data : Bytes} {offset n : Nat} (h : readSize data offset = .ok n) :
    n ≤ data.length := by
  obtain ⟨word, -, h⟩ := Except.bind_eq_ok_iff.mp h
  obtain ⟨hcond, h⟩ := Except.ite_throw_eq_ok_iff.mp h
  obtain rfl := Except.pure_eq_ok_iff.mp h
  rw [Bool.and_eq_true, decide_eq_true_eq, decide_eq_true_eq] at hcond
  exact hcond.2

lemma length_of_readBytes {data bytes : Bytes} (h : readBytes data = .ok bytes) :
    bytes.length ≤ data.length := by
  obtain ⟨length, hlength, -, rfl⟩ := readBytes_eq_ok_iff.mp h
  rw [List.length_take]
  exact (Nat.min_le_left _ _).trans (le_length_of_readSize hlength)

lemma ofText_of_text? {data : Bytes} {text : String} (h : data.text? = some text) :
    Bytes.ofText text = data := by
  rw [Bytes.text?, String.fromUTF8?] at h
  split at h
  · obtain rfl := Option.some.inj h
    rw [Bytes.ofText, String.fromUTF8]
  · simp at h

/-- A fixed array has at most as many elements as there are bytes, since the lengths of types are
sizes. -/
lemma length_le_of_saturate_le {length : UInt64} {size n : Nat}
    (h : Size.saturate (length.toNat * max size 1) ≤ n) : length.toNat ≤ n := by
  have hlt : length.toNat < UInt64.size := length.toNat_lt_size
  have hle : length.toNat ≤ length.toNat * max size 1 := Nat.le_mul_of_pos_right _ (by omega)
  rw [Size.saturate, Size.max, min_le_iff] at h
  omega

/-! ### Values -/

lemma areWithin_of_readFields {ts : List AbiType} {data : Bytes}
    (hts : ∀ t ∈ ts, ∀ data w, decodeValue t data = .ok w → w.IsWithin data.length) {head : Nat}
    {ws : List AbiValue} (h : readFields (readers ts) data head = .ok ws) :
    AreWithin data.length ws := by
  have hread := forall₂_of_readFields h
  clear h
  induction hread with
  | nil => simp [AreWithin]
  | cons hw _ ih =>
    rw [List.forall_mem_cons] at hts
    obtain ⟨k, hw⟩ := hw
    rw [AreWithin]
    refine ⟨(hts.1 _ _ hw).mono ?_, ih hts.2⟩
    rw [List.length_drop]
    exact Nat.sub_le _ _

lemma areWithin_of_replicate {t : AbiType}
    (ht : ∀ data w, decodeValue t data = .ok w → w.IsWithin data.length) {count : Nat}
    {data : Bytes} {head : Nat} {ws : List AbiValue}
    (h : readFields (readers (List.replicate count t)) data head = .ok ws) :
    AreWithin data.length ws := by
  refine areWithin_of_readFields ?_ h
  intro u hu
  rw [List.eq_of_mem_replicate hu]
  exact ht

mutual

/-- Nothing in a decoded value is longer than the data, for legal and other types alike. -/
theorem isWithin_of_decodeValue (t : AbiType) (data : Bytes) (w : AbiValue)
    (h : decodeValue t data = .ok w) : w.IsWithin data.length := by
  match t with
  | .address =>
    obtain ⟨word, -, -, rfl⟩ := decodeValue_address_iff.mp h
    simp [IsWithin]
  | .bool =>
    obtain ⟨word, -, -, rfl⟩ := decodeValue_bool_iff.mp h
    simp [IsWithin]
  | .uint bits =>
    obtain ⟨word, -, -, rfl⟩ := decodeValue_uint_iff.mp h
    simp [IsWithin]
  | .int bits =>
    obtain ⟨word, -, -, rfl⟩ := decodeValue_int_iff.mp h
    simp [IsWithin]
  | .fixedBytes size =>
    obtain ⟨word, -, -, rfl⟩ := decodeValue_fixedBytes_iff.mp h
    simp [IsWithin]
  | .bytes =>
    obtain ⟨bytes, hbytes, rfl⟩ := decodeValue_bytes_iff.mp h
    rw [IsWithin]
    exact length_of_readBytes hbytes
  | .string =>
    obtain ⟨bytes, hbytes, text, htext, rfl⟩ := decodeValue_string_iff.mp h
    rw [IsWithin, ofText_of_text? htext]
    exact length_of_readBytes hbytes
  | .array elem =>
    obtain ⟨count, hcount, -, elems, helems, rfl⟩ := decodeValue_array_iff.mp h
    rw [IsWithin, length_of_readFields_replicate helems]
    refine ⟨le_length_of_readSize hcount, ?_⟩
    refine (areWithin_of_replicate (isWithin_of_decodeValue elem) helems).mono ?_
    rw [List.length_drop]
    exact Nat.sub_le _ _
  | .fixedArray elem length =>
    obtain ⟨hneeded, elems, helems, rfl⟩ := decodeValue_fixedArray_iff.mp h
    rw [IsWithin, length_of_readFields_replicate helems]
    exact ⟨length_le_of_saturate_le hneeded,
      areWithin_of_replicate (isWithin_of_decodeValue elem) helems⟩
  | .tuple types =>
    obtain ⟨values, hvalues, rfl⟩ := decodeValue_tuple_iff.mp h
    rw [IsWithin]
    exact areWithin_of_readFields (isWithin_of_mem types) hvalues
  | .struct name types =>
    obtain ⟨values, hvalues, rfl⟩ := decodeValue_struct_iff.mp h
    rw [IsWithin]
    exact areWithin_of_readFields (isWithin_of_mem types) hvalues

theorem isWithin_of_mem (ts : List AbiType) :
    ∀ t ∈ ts, ∀ data w, decodeValue t data = .ok w → w.IsWithin data.length := by
  match ts with
  | [] => simp
  | t :: ts => exact List.forall_mem_cons.mpr ⟨isWithin_of_decodeValue t, isWithin_of_mem ts⟩

end

lemma areWithin_of_decode {data : Bytes} {types : List AbiType} {values : List AbiValue}
    (h : decode data types = .ok values) : AreWithin data.length values :=
  areWithin_of_readFields (isWithin_of_mem types) h

end ContractCalls.Abi
