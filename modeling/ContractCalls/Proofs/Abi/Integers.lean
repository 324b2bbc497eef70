import ContractCalls.Proofs.Abi.Static

/-!
# Ranges of integers

An integer type has the numbers that its width can hold, and no others are accepted for it, read as
it or written. Unsigned numbers are told by a shift that has to leave nothing, signed ones by a
shift that may leave copies of the sign bit only.
-/

namespace ContractCalls

/-! ### Numbers -/

namespace Bytes

/-- The big-endian value in two's complement. -/
def toInt (data : Bytes) : Int :=
  if 2 * data.toNat < 256 ^ data.length then data.toNat else data.toNat - 256 ^ data.length

lemma toInt_toBitVec {data : Bytes} (h : data.length = 32) :
    (toBitVec 256 data).toInt = data.toInt := by
  rw [BitVec.toInt_eq_toNat_cond, toNat_toBitVec h, toInt, h]
  norm_num

lemma toNat_ofBitVec (word : Word) : (ofBitVec word).toNat = word.toNat := by
  rw [← toNat_toBitVec (length_ofBitVec word), toBitVec_ofBitVec (by decide)]

lemma toInt_ofBitVec (word : Word) : (ofBitVec word).toInt = word.toInt := by
  rw [← toInt_toBitVec (length_ofBitVec word), toBitVec_ofBitVec (by decide)]

end Bytes

namespace AbiType

/-- The numbers of the unsigned type of a width. -/
def uintRange (bits : Nat) : Set Nat :=
  Set.Iio (2 ^ bits)

/-- The numbers of the signed type of a width, which has one bit for the sign. -/
def intRange (bits : Nat) : Set Int :=
  Set.Ico (-2 ^ (bits - 1)) (2 ^ (bits - 1))

end AbiType

/-! ### Checks -/

namespace AbiValue

open AbiType

lemma fitsUint_iff {value : Word} {bits : Nat} :
    fitsUint value bits = true ↔ value.toNat ∈ uintRange bits := by
  rw [fitsUint, Bool.or_eq_true, decide_eq_true_eq, beq_iff_eq, uintRange, Set.mem_Iio]
  by_cases hwide : 256 ≤ bits
  · have hle : 2 ^ 256 ≤ 2 ^ bits := Nat.pow_le_pow_right (by norm_num) hwide
    simp [hwide, value.isLt.trans_le hle]
  · have hshift : value >>> bits = 0 ↔ value.toNat / 2 ^ bits = 0 := by
      rw [← BitVec.toNat_inj, BitVec.toNat_ushiftRight, Nat.shiftRight_eq_div_pow]
      rfl
    rw [hshift, Nat.div_eq_zero_iff_lt (by positivity)]
    simp [hwide]

/-- The arithmetic shift that leaves the sign bit divides by what lies above the range. -/
lemma sshiftRight_eq_iff {value : Word} {n : Nat} :
    value.sshiftRight n = 0 ∨ value.sshiftRight n = -1 ↔
      -2 ^ n ≤ value.toInt ∧ value.toInt < 2 ^ n := by
  have hpos : (0 : Int) < (2 ^ n : Nat) := by positivity
  have hquotient : ∀ q : Word, value.sshiftRight n = q ↔ value.toInt / (2 ^ n : Nat) = q.toInt := by
    intro q
    rw [← BitVec.toInt_inj, BitVec.toInt_sshiftRight, Int.shiftRight_eq_div_pow]
  have hzero : (0 : Word).toInt = 0 := by decide
  have hneg : (-1 : Word).toInt = -1 := by decide
  have hle : -1 ≤ value.toInt / (2 ^ n : Nat) ↔ -2 ^ n ≤ value.toInt := by
    rw [Int.le_ediv_iff_mul_le hpos, neg_one_mul]
    norm_cast
  have hlt : value.toInt / (2 ^ n : Nat) < 1 ↔ value.toInt < 2 ^ n := by
    rw [Int.ediv_lt_iff_lt_mul hpos, one_mul]
    norm_cast
  rw [hquotient, hquotient, hzero, hneg, ← hle, ← hlt]
  omega

/-- Without a bit for the sign there is no signed number. -/
lemma fitsInt_iff {value : Word} {bits : Nat} (hbits : bits ≠ 0) :
    fitsInt value bits = true ↔ value.toInt ∈ intRange bits := by
  have hcheck : fitsInt value bits = true ↔
      256 ≤ bits ∨ value.sshiftRight (bits - 1) = 0 ∨ value.sshiftRight (bits - 1) = -1 := by
    simp [fitsInt, hbits, or_assoc]
  rw [hcheck, sshiftRight_eq_iff, intRange, Set.mem_Ico]
  constructor
  · rintro (hwide | hrange)
    · have hpow : (2 : Int) ^ 255 ≤ 2 ^ (bits - 1) := pow_le_pow_right₀ (by norm_num) (by omega)
      have hle := value.le_toInt
      have hlt := value.toInt_lt
      norm_num only at hle hlt hpow ⊢
      omega
    · exact hrange
  · exact Or.inr

lemma hasType_uint_iff {value : Word} {width bits : Nat} :
    HasType (.uint value width) (.uint bits) ↔ value.toNat ∈ uintRange bits := by
  rw [← fitsUint_iff]
  constructor
  · rintro ⟨⟩
    assumption
  · exact HasType.uint width

lemma hasType_int_iff {value : Word} {width bits : Nat} (hbits : bits ≠ 0) :
    HasType (.int value width) (.int bits) ↔ value.toInt ∈ intRange bits := by
  rw [← fitsInt_iff hbits]
  constructor
  · rintro ⟨⟩
    assumption
  · exact HasType.int width

end AbiValue

/-! ### Words of static types -/

namespace Abi

open AbiType AbiValue

lemma decode_singleton_iff {t : AbiType} (hstatic : t.isDynamic = false) {data : Bytes}
    {values : List AbiValue} :
    decode data [t] = .ok values ↔ ∃ v, decodeValue t data = .ok v ∧ values = [v] := by
  simp [decode, readers, readFields, FieldReader.readAt, hstatic, Except.bind_eq_ok_iff,
    eq_comm (a := values)]

lemma encode_singleton_of_static {v : AbiValue} {t : AbiType} (h : HasType v t)
    (hstatic : t.isDynamic = false) : encode [v] [t] = .ok (encodeValue v t) := by
  refine encode_eq_ok_iff.mpr ⟨.cons h .nil, ?_⟩
  simp [fields, layOut, layHead, layTail, hstatic]

lemma readWord_of_length {data : Bytes} (h : data.length = 32) :
    readWord data 0 = .ok (Bytes.toBitVec 256 data) := by
  rw [readWord, if_pos h.ge, List.drop_zero, List.take_of_length_le h.le]

/-- A value that is a word, if it has its type, is read from 32 bytes as the word that they are. -/
lemma decode_word_iff {t : AbiType} (hstatic : t.isDynamic = false) {make : Word → AbiValue}
    (hread : ∀ data v, decodeValue t data = .ok v ↔
      ∃ word, readWord data 0 = .ok word ∧ HasType (make word) t ∧ v = make word)
    {data : Bytes} (hlen : data.length = 32) {values : List AbiValue} :
    decode data [t] = .ok values ↔
      HasType (make (Bytes.toBitVec 256 data)) t ∧ values = [make (Bytes.toBitVec 256 data)] := by
  rw [decode_singleton_iff hstatic]
  simp only [hread, readWord_of_length hlen, Except.ok.injEq, exists_eq_left', and_assoc,
    exists_and_left, exists_eq_left]

section

variable {bits : Nat} {data : Bytes} (hlen : data.length = 32) {values : List AbiValue}

include hlen

lemma decode_uint_iff : decode data [.uint bits] = .ok values ↔
    data.toNat ∈ uintRange bits ∧
      ∃ value : Word, value.toNat = data.toNat ∧ values = [.uint value bits] := by
  have hnumber := Bytes.toNat_toBitVec hlen
  rw [decode_word_iff rfl (fun _ _ => decodeValue_uint_iff) hlen, hasType_uint_iff, hnumber]
  refine and_congr_right fun _ => ⟨fun h => ⟨_, hnumber, h⟩, ?_⟩
  rintro ⟨value, hvalue, rfl⟩
  rw [BitVec.eq_of_toNat_eq (hvalue.trans hnumber.symm)]

lemma decode_int_iff (hbits : bits ≠ 0) : decode data [.int bits] = .ok values ↔
    data.toInt ∈ intRange bits ∧
      ∃ value : Word, value.toInt = data.toInt ∧ values = [.int value bits] := by
  have hnumber := Bytes.toInt_toBitVec hlen
  rw [decode_word_iff rfl (fun _ _ => decodeValue_int_iff) hlen, hasType_int_iff hbits, hnumber]
  refine and_congr_right fun _ => ⟨fun h => ⟨_, hnumber, h⟩, ?_⟩
  rintro ⟨value, hvalue, rfl⟩
  rw [BitVec.eq_of_toInt_eq (hvalue.trans hnumber.symm)]

end

/-! ### Legal widths -/

/-- For each legal width the numbers that are accepted, that are read and that are written are those
of the width. The width that a value declares does not count. -/
theorem integers_in_range {bits : Nat} (hbits : isIntegerWidth bits = true) :
    (∀ (value : Word) (width : Nat),
      ((AbiValue.uint value width).checkType (.uint bits) = .ok () ↔ value.toNat ∈ uintRange bits) ∧
      ((AbiValue.int value width).checkType (.int bits) = .ok () ↔ value.toInt ∈ intRange bits)) ∧
    (∀ data : Bytes, data.length = 32 → ∀ values,
      (decode data [.uint bits] = .ok values ↔ data.toNat ∈ uintRange bits ∧
        ∃ value : Word, value.toNat = data.toNat ∧ values = [.uint value bits]) ∧
      (decode data [.int bits] = .ok values ↔ data.toInt ∈ intRange bits ∧
        ∃ value : Word, value.toInt = data.toInt ∧ values = [.int value bits])) ∧
    ∀ (value : Word) (width : Nat),
      (value.toNat ∈ uintRange bits → ∃ data, encode [.uint value width] [.uint bits] = .ok data ∧
        data.length = 32 ∧ data.toNat = value.toNat) ∧
      (value.toInt ∈ intRange bits → ∃ data, encode [.int value width] [.int bits] = .ok data ∧
        data.length = 32 ∧ data.toInt = value.toInt) := by
  have hpos : bits ≠ 0 := by
    rintro rfl
    exact absurd hbits (by decide)
  refine ⟨?check, ?read, ?write⟩
  case check =>
    intro value width
    rw [checkType_eq_ok_iff, checkType_eq_ok_iff]
    exact ⟨hasType_uint_iff, hasType_int_iff hpos⟩
  case read =>
    intro data hlen values
    exact ⟨decode_uint_iff hlen, decode_int_iff hlen hpos⟩
  case write =>
    intro value width
    refine ⟨fun h => ?_, fun h => ?_⟩
    · refine ⟨_, encode_singleton_of_static (hasType_uint_iff.mpr h) rfl, ?_⟩
      rw [encodeValue]
      exact ⟨Bytes.length_ofBitVec value, Bytes.toNat_ofBitVec value⟩
    · refine ⟨_, encode_singleton_of_static ((hasType_int_iff hpos).mpr h) rfl, ?_⟩
      rw [encodeValue]
      exact ⟨Bytes.length_ofBitVec value, Bytes.toInt_ofBitVec value⟩

/-- The least number of eight bits with a sign, given with all 256 bits, and the number below it. -/
theorem integers_in_range_least :
    isIntegerWidth 8 = true ∧
      (AbiValue.int (-128) 256).checkType (.int 8) = .ok () ∧
      (AbiValue.int (-129) 8).checkType (.int 8) ≠ .ok () ∧
      decode (Bytes.ofBitVec (-128 : Word)) [.int 8] = .ok [.int (-128) 8] ∧
      (∀ values, decode (Bytes.ofBitVec (-129 : Word)) [.int 8] ≠ .ok values) ∧
      ∃ data, encode [.int (-128) 256] [.int 8] = .ok data ∧ data.toInt = -128 := by
  have hwidth : isIntegerWidth 8 = true := by decide
  obtain ⟨hcheck, hread, hwrite⟩ := integers_in_range hwidth
  have hleast : (-128 : Word).toInt ∈ intRange 8 := by
    rw [intRange, Set.mem_Ico]
    decide +kernel
  have hbelow : (-129 : Word).toInt ∉ intRange 8 := by
    rw [intRange, Set.mem_Ico]
    decide +kernel
  refine ⟨hwidth, (hcheck _ _).2.mpr hleast, fun h => hbelow ((hcheck _ _).2.mp h), ?_, ?_, ?_⟩
  · rw [(hread _ (Bytes.length_ofBitVec _) _).2, Bytes.toInt_ofBitVec]
    exact ⟨hleast, _, rfl, rfl⟩
  · intro values h
    rw [(hread _ (Bytes.length_ofBitVec _) _).2, Bytes.toInt_ofBitVec] at h
    exact hbelow h.1
  · obtain ⟨data, hdata, -, hnumber⟩ := (hwrite (-128) 256).2 hleast
    exact ⟨data, hdata, hnumber.trans (by decide)⟩

end Abi

end ContractCalls
