import ContractCalls.Bytes
import ContractCalls.Proofs.Except

/-!
# Big-endian numbers

Writing a number in a fixed number of bytes and reading it back: the low digits come back, and all
of them if there is room. Bytes that are cut off at the front are the high digits. A selector is
read off the bytes that start with it.
-/

namespace ContractCalls.Bytes

/-! ### Reading -/

lemma foldl_toNat (n : Nat) (data : Bytes) :
    data.foldl (fun n b => n * 256 + b.toNat) n = n * 256 ^ data.length + toNat data := by
  induction data generalizing n with
  | nil => simp [toNat]
  | cons b data ih =>
    rw [toNat, List.foldl_cons, List.foldl_cons, ih, ih (0 * 256 + b.toNat), List.length_cons]
    ring

lemma toNat_append (a b : Bytes) : toNat (a ++ b) = toNat a * 256 ^ b.length + toNat b := by
  rw [toNat, List.foldl_append, foldl_toNat]
  rfl

@[simp] lemma toNat_singleton (b : UInt8) : toNat [b] = b.toNat := by simp [toNat]

lemma toNat_ofNat (width n : Nat) : toNat (ofNat width n) = n % 256 ^ width := by
  induction width generalizing n with
  | zero => simp [ofNat, toNat, Nat.mod_one]
  | succ width ih =>
    rw [ofNat, toNat_append, ih, toNat_singleton, List.length_singleton, pow_one, pow_succ',
      Nat.mod_mul, UInt8.toNat_ofNat']
    omega

/-- A word that is read is the number written, modulo the size of the word. -/
@[simp] lemma toBitVec_ofNat (n : Nat) : toBitVec 256 (ofNat 32 n) = BitVec.ofNat 256 n := by
  apply BitVec.eq_of_toNat_eq
  rw [toBitVec, BitVec.toNat_ofNat, BitVec.toNat_ofNat, toNat_ofNat]
  norm_num

lemma toBitVec_ofBitVec {w : Nat} (hw : 8 ∣ w) (x : BitVec w) :
    toBitVec w (ofBitVec x) = x := by
  obtain ⟨k, rfl⟩ := hw
  have hsize : 256 ^ k = 2 ^ (8 * k) := by rw [pow_mul]; norm_num
  apply BitVec.eq_of_toNat_eq
  rw [toBitVec, BitVec.toNat_ofNat, ofBitVec, toNat_ofNat, Nat.mul_div_cancel_left k (by norm_num),
    hsize, Nat.mod_eq_of_lt x.isLt, Nat.mod_eq_of_lt x.isLt]

/-! ### Writing -/

@[simp] lemma length_ofBitVec {w : Nat} (x : BitVec w) : (ofBitVec x).length = w / 8 :=
  length_ofNat _ _

lemma drop_ofNat (k width n : Nat) : (ofNat width n).drop k = ofNat (width - k) n := by
  induction width generalizing n with
  | zero => simp [ofNat]
  | succ width ih =>
    by_cases hk : k ≤ width
    · rw [ofNat, List.drop_append_of_le_length (by rw [length_ofNat]; exact hk), ih,
        Nat.succ_sub hk, ofNat]
    · rw [List.drop_eq_nil_of_le (by rw [length_ofNat]; omega), Nat.sub_eq_zero_of_le (by omega),
        ofNat]

/-- Bytes are the digits of their value. -/
lemma ofNat_toNat (data : Bytes) : ofNat data.length (toNat data) = data := by
  induction data using List.reverseRecOn with
  | nil => rfl
  | append_singleton init b ih =>
    have hval : toNat (init ++ [b]) = toNat init * 256 + b.toNat := by
      rw [toNat_append, toNat_singleton, List.length_singleton, pow_one]
    have hlast : UInt8.ofNat (toNat init * 256 + b.toNat) = b := by
      rw [← UInt8.toNat_inj, UInt8.toNat_ofNat', Nat.mul_add_mod_self_right,
        Nat.mod_eq_of_lt b.toNat_lt]
    have hinit : (toNat init * 256 + b.toNat) / 256 = toNat init := by
      have := b.toNat_lt
      omega
    rw [List.length_append, List.length_singleton, ofNat, hval, hlast, hinit, ih]

lemma toNat_lt (data : Bytes) : toNat data < 256 ^ data.length := by
  have h := congrArg toNat (ofNat_toNat data)
  rw [toNat_ofNat] at h
  rw [← h]
  exact Nat.mod_lt _ (by positivity)

/-- Bytes that fill a word are read in full. -/
lemma toNat_toBitVec {data : Bytes} (h : data.length = 32) :
    (toBitVec 256 data).toNat = toNat data := by
  have hlt : toNat data < 2 ^ 256 :=
    calc toNat data < 256 ^ data.length := toNat_lt data
      _ = 2 ^ 256 := by rw [h]; norm_num
  rw [toBitVec, BitVec.toNat_ofNat, Nat.mod_eq_of_lt hlt]

/-- The word that is read from 32 bytes is written as the same bytes. -/
lemma ofBitVec_toBitVec {data : Bytes} (h : data.length = 32) :
    ofBitVec (toBitVec 256 data) = data := by
  have hwidth : 256 / 8 = data.length := h.symm
  rw [ofBitVec, toNat_toBitVec h, hwidth]
  exact ofNat_toNat data

lemma zeros_succ (n : Nat) : zeros (n + 1) = zeros n ++ [0] := List.replicate_succ'

lemma ofNat_eq_zeros_iff (width n : Nat) : ofNat width n = zeros width ↔ n % 256 ^ width = 0 := by
  induction width generalizing n with
  | zero => simp [ofNat, zeros, Nat.mod_one]
  | succ width ih =>
    have hlast : UInt8.ofNat n = 0 ↔ n % 256 = 0 := by
      rw [← UInt8.toNat_inj, UInt8.toNat_ofNat']
      rfl
    have hdigits : n % (256 * 256 ^ width) = 0 ↔ n / 256 % 256 ^ width = 0 ∧ n % 256 = 0 := by
      rw [Nat.mod_mul]
      omega
    rw [ofNat, zeros_succ, pow_succ', hdigits, ← ih, ← hlast]
    constructor
    · intro h
      obtain ⟨hinit, hlast⟩ := List.append_inj' h rfl
      exact ⟨hinit, List.singleton_inj.mp hlast⟩
    · rintro ⟨hinit, hlast⟩
      rw [hinit, hlast]

/-- A number that fits in fewer bytes is written with zeros in front. -/
lemma ofNat_add (k width : Nat) {n : Nat} (hn : n < 256 ^ width) :
    ofNat (k + width) n = zeros k ++ ofNat width n := by
  induction width generalizing n with
  | zero =>
    rw [pow_zero, Nat.lt_one_iff] at hn
    rw [hn, ofNat, List.append_nil, Nat.add_zero, ofNat_eq_zeros_iff, Nat.zero_mod]
  | succ width ih =>
    have hdigits : n / 256 < 256 ^ width := by
      rw [Nat.div_lt_iff_lt_mul (by norm_num), ← pow_succ]
      exact hn
    rw [← Nat.add_assoc, ofNat, ofNat, ih hdigits, List.append_assoc]

/-- The bytes of a word from a place on are zero just in case its low bits are. -/
lemma drop_ofBitVec_eq_zeros_iff (word : Word) (k : Nat) :
    (ofBitVec word).drop k = zeros (32 - k) ↔ word.setWidth (8 * (32 - k)) = 0 := by
  rw [ofBitVec, drop_ofNat, ofNat_eq_zeros_iff, ← BitVec.toNat_inj, BitVec.toNat_setWidth, pow_mul]
  rfl

/-! ### A selector in front of other bytes -/

section

variable (selector : BitVec 32) (body : Bytes)

lemma four_le_length_selector_append : 4 ≤ (ofBitVec selector ++ body).length := by
  rw [List.length_append, length_ofBitVec]
  exact Nat.le_add_right 4 _

@[simp] lemma toBitVec_take_selector_append :
    toBitVec 32 ((ofBitVec selector ++ body).take 4) = selector := by
  rw [List.take_left' (length_ofBitVec selector), toBitVec_ofBitVec (by decide)]

@[simp] lemma drop_selector_append : (ofBitVec selector ++ body).drop 4 = body :=
  List.drop_left' (length_ofBitVec selector)

end

end ContractCalls.Bytes
