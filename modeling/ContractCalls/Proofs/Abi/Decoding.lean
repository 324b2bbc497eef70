import ContractCalls.Abi.Decoding
import ContractCalls.Proofs.Abi.Encoding

/-!
# What decoding accepts

For each type the words, lengths and components that the bytes have to hold for a value to be read
from them. Everything that is proved of decoding starts from these.
-/

namespace ContractCalls.Abi

/-- The elements of an array are read as fields whose types are all the same. -/
lemma readers_replicate (count : Nat) (t : AbiType) :
    readers (List.replicate count t) =
      List.replicate count ⟨t.isDynamic, t.headSize, decodeValue t⟩ := by
  induction count with
  | zero => simp [readers]
  | succ count ih => rw [List.replicate_succ, readers, ih, List.replicate_succ]

/-- Each field is a value of its type, read from some place in the data on. -/
lemma forall₂_of_readFields {ts : List AbiType} {data : Bytes} {head : Nat} {ws : List AbiValue}
    (h : readFields (readers ts) data head = .ok ws) :
    List.Forall₂ (fun w t => ∃ k, decodeValue t (data.drop k) = .ok w) ws ts := by
  induction ts generalizing head ws with
  | nil =>
    rw [readers, readFields] at h
    obtain rfl := Except.ok.inj h
    exact .nil
  | cons t ts ih =>
    rw [readers, readFields, Except.bind_eq_ok_iff] at h
    obtain ⟨w, hw, h⟩ := h
    obtain ⟨ws, hws, h⟩ := Except.bind_eq_ok_iff.mp h
    obtain rfl := Except.pure_eq_ok_iff.mp h
    exact .cons (exists_drop_of_readAt hw) (ih hws)

/-- An array has as many elements as its count or its length says. -/
lemma length_of_readFields_replicate {count : Nat} {t : AbiType} {data : Bytes} {head : Nat}
    {ws : List AbiValue} (h : readFields (readers (List.replicate count t)) data head = .ok ws) :
    ws.length = count := by
  rw [(forall₂_of_readFields h).length_eq, List.length_replicate]

lemma readBytes_eq_ok_iff {data bytes : Bytes} :
    readBytes data = .ok bytes ↔ ∃ length, readSize data 0 = .ok length ∧
      32 + length ≤ data.length ∧ bytes = (data.drop 32).take length := by
  rw [readBytes, Except.bind_eq_ok_iff]
  refine exists_congr fun length => and_congr_right fun _ => ?_
  rw [readSlice, Except.ite_error_eq_ok_iff, Except.ok.injEq, eq_comm (b := bytes)]

section

variable {data : Bytes} {w : AbiValue}

lemma decodeValue_address_iff : decodeValue .address data = .ok w ↔
    ∃ word, readWord data 0 = .ok word ∧ word >>> 160 = 0 ∧ w = .address (word.setWidth 160) := by
  refine Except.bind_eq_ok_iff.trans (exists_congr fun word => and_congr_right fun _ => ?_)
  rw [Except.ite_throw_eq_ok_iff, Except.pure_eq_ok_iff]

lemma decodeValue_bool_iff : decodeValue .bool data = .ok w ↔
    ∃ word, readWord data 0 = .ok word ∧ word.toNat ≤ 1 ∧ w = .bool (word.toNat == 1) := by
  refine Except.bind_eq_ok_iff.trans (exists_congr fun word => and_congr_right fun _ => ?_)
  rw [Except.ite_throw_eq_ok_iff, Except.pure_eq_ok_iff]

lemma accept_eq_ok_iff {v : AbiValue} {t : AbiType} :
    accept v t = .ok w ↔ HasType v t ∧ w = v := by
  rw [accept, Except.bind_eq_ok_iff]
  constructor
  · rintro ⟨⟨⟩, h, heq⟩
    exact ⟨AbiValue.checkType_eq_ok_iff.mp h, Except.pure_eq_ok_iff.mp heq⟩
  · rintro ⟨h, rfl⟩
    exact ⟨(), AbiValue.checkType_eq_ok_iff.mpr h, rfl⟩

lemma decodeValue_uint_iff {bits : Nat} : decodeValue (.uint bits) data = .ok w ↔
    ∃ word, readWord data 0 = .ok word ∧ HasType (.uint word bits) (.uint bits) ∧
      w = .uint word bits := by
  refine Except.bind_eq_ok_iff.trans (exists_congr fun word => and_congr_right fun _ => ?_)
  exact accept_eq_ok_iff

lemma decodeValue_int_iff {bits : Nat} : decodeValue (.int bits) data = .ok w ↔
    ∃ word, readWord data 0 = .ok word ∧ HasType (.int word bits) (.int bits) ∧
      w = .int word bits := by
  refine Except.bind_eq_ok_iff.trans (exists_congr fun word => and_congr_right fun _ => ?_)
  exact accept_eq_ok_iff

lemma decodeValue_fixedBytes_iff {size : Nat} : decodeValue (.fixedBytes size) data = .ok w ↔
    ∃ word, readWord data 0 = .ok word ∧
      (Bytes.ofBitVec word).drop size = Bytes.zeros (32 - size) ∧ w = .fixedBytes word size := by
  refine Except.bind_eq_ok_iff.trans (exists_congr fun word => and_congr_right fun _ => ?_)
  rw [Bytes.drop_ofBitVec_eq_zeros_iff, Except.ite_throw_eq_ok_iff, Except.pure_eq_ok_iff]

lemma decodeValue_bytes_iff : decodeValue .bytes data = .ok w ↔
    ∃ bytes, readBytes data = .ok bytes ∧ w = .bytes bytes := by
  refine Except.bind_eq_ok_iff.trans ?_
  simp only [Except.pure_eq_ok_iff]

lemma decodeValue_string_iff : decodeValue .string data = .ok w ↔
    ∃ bytes, readBytes data = .ok bytes ∧ ∃ text, bytes.text? = some text ∧ w = .string text := by
  refine Except.bind_eq_ok_iff.trans (exists_congr fun bytes => and_congr_right fun _ => ?_)
  split
  · next text h =>
    rw [Except.pure_eq_ok_iff, h]
    simp
  · next h => simp [h, throw, throwThe, MonadExceptOf.throw]

/-- There have to be enough bytes for the heads of as many elements as the count says. -/
lemma decodeValue_array_iff {elem : AbiType} : decodeValue (.array elem) data = .ok w ↔
    ∃ count, readSize data 0 = .ok count ∧
      Size.saturate (count * elem.headSize) ≤ (data.drop 32).length ∧
      ∃ elems, readFields (readers (List.replicate count elem)) (data.drop 32) 0 = .ok elems ∧
        w = .array elems := by
  refine Except.bind_eq_ok_iff.trans (exists_congr fun count => and_congr_right fun _ => ?_)
  rw [readers_replicate]
  simp only [gt_iff_lt, Except.unless_throw_eq_ok_iff, Except.bind_eq_ok_iff, Except.pure_eq_ok_iff,
    not_lt]

/-- There have to be enough bytes for the heads of all elements, each counted as one byte at
least. -/
lemma decodeValue_fixedArray_iff {elem : AbiType} {length : UInt64} :
    decodeValue (.fixedArray elem length) data = .ok w ↔
      Size.saturate (length.toNat * max elem.headSize 1) ≤ data.length ∧
      ∃ elems, readFields (readers (List.replicate length.toNat elem)) data 0 = .ok elems ∧
        w = .fixedArray elems := by
  rw [decodeValue, readers_replicate]
  simp only [gt_iff_lt, Except.unless_throw_eq_ok_iff, Except.bind_eq_ok_iff, Except.pure_eq_ok_iff,
    not_lt]

lemma decodeValue_tuple_iff {types : List AbiType} : decodeValue (.tuple types) data = .ok w ↔
    ∃ values, readFields (readers types) data 0 = .ok values ∧ w = .tuple values := by
  refine Except.bind_eq_ok_iff.trans ?_
  simp only [Except.pure_eq_ok_iff]

lemma decodeValue_struct_iff {name : String} {types : List AbiType} :
    decodeValue (.struct name types) data = .ok w ↔
      ∃ values, readFields (readers types) data 0 = .ok values ∧ w = .struct name values := by
  refine Except.bind_eq_ok_iff.trans ?_
  simp only [Except.pure_eq_ok_iff]

end

end ContractCalls.Abi
