import ContractCalls.Bytes

/-!
# Keccak-256

The sponge over the 1600-bit Keccak permutation with a rate of 136 bytes and the padding `01 … 80`.
Lanes are listed row by row: lane `(x, y)` stands at index `x + 5 * y`.
-/

namespace ContractCalls.Keccak

abbrev State := Vector UInt64 25

def lane (a : State) (i : Nat) : UInt64 :=
  a[Fin.ofNat 25 i]

def rotateLeft (x : UInt64) (n : Nat) : UInt64 :=
  if n = 0 then x else (x <<< UInt64.ofNat n) ||| (x >>> UInt64.ofNat (64 - n))

/-- The rotation of each lane. -/
def rotations : Vector Nat 25 :=
  #v[0, 1, 62, 28, 27, 36, 44, 6, 55, 20, 3, 10, 43, 25, 39, 41, 45, 15, 21, 8, 18, 2, 61, 56, 14]

def roundConstants : List UInt64 :=
  [0x0000000000000001, 0x0000000000008082, 0x800000000000808A, 0x8000000080008000,
   0x000000000000808B, 0x0000000080000001, 0x8000000080008081, 0x8000000000008009,
   0x000000000000008A, 0x0000000000000088, 0x0000000080008009, 0x000000008000000A,
   0x000000008000808B, 0x800000000000008B, 0x8000000000008089, 0x8000000000008003,
   0x8000000000008002, 0x8000000000000080, 0x000000000000800A, 0x800000008000000A,
   0x8000000080008081, 0x8000000000008080, 0x0000000080000001, 0x8000000080008008]

/-- Adds to each lane the parities of two neighbouring columns. -/
def theta (a : State) : State :=
  let parity : Vector UInt64 5 := Vector.ofFn fun x =>
    lane a x ^^^ lane a (x + 5) ^^^ lane a (x + 10) ^^^ lane a (x + 15) ^^^ lane a (x + 20)
  let mix : Vector UInt64 5 := Vector.ofFn fun x =>
    parity[Fin.ofNat 5 (x + 4)] ^^^ rotateLeft parity[Fin.ofNat 5 (x + 1)] 1
  Vector.ofFn fun i => a[i] ^^^ mix[Fin.ofNat 5 i]

/-- Rotates the lanes and moves lane `(x + 3y, x)` to `(x, y)`. -/
def rhoPi (a : State) : State :=
  Vector.ofFn fun i =>
    let x := i.val % 5
    let y := i.val / 5
    let source := Fin.ofNat 25 ((x + 3 * y) % 5 + 5 * x)
    rotateLeft a[source] rotations[source]

/-- Combines each lane with the next two of its row. -/
def chi (a : State) : State :=
  Vector.ofFn fun i =>
    let x := i.val % 5
    let row := 5 * (i.val / 5)
    a[i] ^^^ (~~~ lane a (row + (x + 1) % 5) &&& lane a (row + (x + 2) % 5))

def round (a : State) (constant : UInt64) : State :=
  let b := chi (rhoPi (theta a))
  b.set 0 (lane b 0 ^^^ constant)

def permute (a : State) : State :=
  roundConstants.foldl round a

/-- The eight bytes of a lane, least significant first. -/
def laneBytes (x : UInt64) : Bytes :=
  (Bytes.ofNat 8 x.toNat).reverse

/-- Lane `i` of a block. -/
def blockLane (block : Bytes) (i : Nat) : UInt64 :=
  UInt64.ofNat (Bytes.toNat ((block.drop (8 * i)).take 8).reverse)

/-- The block length in bytes. -/
def rate : Nat := 136

def absorb (a : State) (block : Bytes) : State :=
  permute (Vector.ofFn fun i => if i.val < rate / 8 then a[i] ^^^ blockLane block i else a[i])

/-- The message followed by `01`, zeros and `80` up to a multiple of the rate; a single free byte is
`81`. -/
def pad (data : Bytes) : Bytes :=
  let free := rate - data.length % rate
  if free = 1 then data ++ [0x81] else data ++ [0x01] ++ Bytes.zeros (free - 2) ++ [0x80]

/-- Absorbs `n` blocks. -/
def absorbBlocks : (n : Nat) → State → Bytes → State
  | 0, a, _ => a
  | n + 1, a, data => absorbBlocks n (absorb a (data.take rate)) (data.drop rate)

/-- The 32-byte digest. -/
def digest (data : Bytes) : Bytes :=
  let padded := pad data
  let final := absorbBlocks (padded.length / rate) (Vector.replicate 25 0) padded
  (final.toList.take 4).flatMap laneBytes

/-- The digest as a word. -/
def hash (data : Bytes) : Hash :=
  (digest data).toBitVec 256

end ContractCalls.Keccak
