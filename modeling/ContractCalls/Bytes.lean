/-!
# Byte strings

Byte strings as lists, their reading as big-endian numbers, fixed-width words, UTF-8 text, and the
zeros that fill the last 32-byte word.
-/

namespace ContractCalls

abbrev Bytes := List UInt8

/-- A 32-byte machine word. -/
abbrev Word := BitVec 256

/-- A 20-byte account address. -/
abbrev Address := BitVec 160

/-- A 32-byte digest. -/
abbrev Hash := BitVec 256

/-- The first four bytes of the digest of a signature. -/
abbrev Selector := BitVec 32

namespace Bytes

/-- The big-endian value. -/
def toNat (data : Bytes) : Nat :=
  data.foldl (fun n b => n * 256 + b.toNat) 0

/-- The low `width` bytes of `n`, most significant first. -/
def ofNat : (width n : Nat) → Bytes
  | 0, _ => []
  | width + 1, n => ofNat width (n / 256) ++ [UInt8.ofNat n]

/-- The big-endian bytes of a word. -/
def ofBitVec {w : Nat} (x : BitVec w) : Bytes :=
  ofNat (w / 8) x.toNat

/-- The word with the given big-endian bytes; of a longer string the last bytes count. -/
def toBitVec (w : Nat) (data : Bytes) : BitVec w :=
  BitVec.ofNat w data.toNat

/-- The number of base-256 digits of `n`, zero for zero. -/
def width (n : Nat) : Nat :=
  if n = 0 then 0 else n.log2 / 8 + 1

/-- The big-endian bytes of `n` without leading zeros. -/
def ofNatTrimmed (n : Nat) : Bytes :=
  ofNat (width n) n

def zeros (n : Nat) : Bytes :=
  List.replicate n 0

/-- Zeros appended up to the next multiple of 32 bytes. -/
def padRight (data : Bytes) : Bytes :=
  data ++ zeros ((32 - data.length % 32) % 32)

/-- Zeros put in front up to `n` bytes. -/
def padLeft (n : Nat) (data : Bytes) : Bytes :=
  zeros (n - data.length) ++ data

/-- The UTF-8 bytes of a text. -/
def ofText (text : String) : Bytes :=
  text.toByteArray.data.toList

/-- The text with the given bytes, if they are valid UTF-8. -/
def text? (data : Bytes) : Option String :=
  String.fromUTF8? ⟨data.toArray⟩

theorem text?_ofText (text : String) : text? (ofText text) = some text := by
  have h : (⟨(ofText text).toArray⟩ : ByteArray) = text.toByteArray := by simp [ofText]
  simp [text?, String.fromUTF8?, h, text.isValidUTF8, String.fromUTF8]

theorem length_ofNat (width n : Nat) : (ofNat width n).length = width := by
  induction width generalizing n <;> simp_all [ofNat]

@[simp]
theorem length_zeros (n : Nat) : (zeros n).length = n := by
  simp [zeros]

theorem length_padRight_mod (data : Bytes) : (padRight data).length % 32 = 0 := by
  simp [padRight]; omega

end Bytes

end ContractCalls
