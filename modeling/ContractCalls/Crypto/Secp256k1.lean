import ContractCalls.Crypto.Keccak
import ContractCalls.Crypto.Sha256

/-!
# Signatures on the curve secp256k1

ECDSA with deterministic nonces: the nonce is drawn from the key and the message by the HMAC
generator of RFC 6979. Of the two signatures `s` and `n - s` the one with the smaller number is
taken.
-/

namespace ContractCalls.Secp256k1

/-- The prime of the field. -/
def p : Nat := 0xfffffffffffffffffffffffffffffffffffffffffffffffffffffffefffffc2f

/-- The order of the group. -/
def n : Nat := 0xfffffffffffffffffffffffffffffffebaaedce6af48a03bbfd25e8cd0364141

/-- The power of a number modulo `m`, with an exponent below `2 ^ bits`. -/
def powMod (m : Nat) : (bits : Nat) → (base exponent : Nat) → Nat
  | 0, _, _ => 1 % m
  | bits + 1, base, exponent =>
    let rest := powMod m bits (base * base % m) (exponent / 2)
    if exponent % 2 = 1 then base * rest % m else rest

/-- The inverse modulo a prime, zero for zero. -/
def inverse (m x : Nat) : Nat :=
  powMod m 256 (x % m) (m - 2)

/-- A point in Jacobian coordinates: `(x / z ^ 2, y / z ^ 3)`, the point at infinity if `z` is
zero. -/
structure Point where
  x : Nat
  y : Nat
  z : Nat
  deriving Repr, Inhabited

namespace Point

def infinity : Point := ⟨1, 1, 0⟩

def generator : Point where
  x := 0x79be667ef9dcbbac55a06295ce870b07029bfcdb2dce28d959f2815b16f81798
  y := 0x483ada7726a3c4655da4fbfc0e1108a8fd17b448a68554199c47d08ffb10d4b8
  z := 1

def subMod (a b : Nat) : Nat :=
  (a + p - b % p) % p

def double (a : Point) : Point :=
  let yy := a.y * a.y % p
  let s := 4 * a.x * yy % p
  let m := 3 * a.x * a.x % p
  let x := subMod (m * m % p) (2 * s)
  ⟨x, subMod (m * subMod s x % p) (8 * yy * yy % p), 2 * a.y * a.z % p⟩

def add (a b : Point) : Point :=
  if a.z = 0 then b
  else if b.z = 0 then a
  else
    let az := a.z * a.z % p
    let bz := b.z * b.z % p
    let u := a.x * bz % p
    let v := b.x * az % p
    let s := a.y * (b.z * bz % p) % p
    let t := b.y * (a.z * az % p) % p
    if u = v then if s = t then double a else infinity
    else
      let h := subMod v u
      let r := subMod t s
      let hh := h * h % p
      let hhh := h * hh % p
      let w := u * hh % p
      let x := subMod (subMod (r * r % p) hhh) (2 * w)
      ⟨x, subMod (r * subMod w x % p) (s * hhh % p), h * (a.z * b.z % p) % p⟩

/-- The multiple of a point by a number below `2 ^ bits`. -/
def multiple : (bits : Nat) → Nat → Point → Point
  | 0, _, _ => infinity
  | bits + 1, k, a =>
    let rest := multiple bits (k / 2) (double a)
    if k % 2 = 1 then add a rest else rest

/-- The coordinates of a point that is not at infinity. -/
def affine (a : Point) : Nat × Nat :=
  let inv := inverse p a.z
  (a.x * (inv * inv % p) % p, a.y * (inv * inv % p * inv % p) % p)

end Point

/-- A secret key is a number from 1 to `n - 1`. -/
def isSecret (secret : Nat) : Bool :=
  0 < secret && secret < n

/-- The address of the account that a secret key belongs to: the last bytes of the digest of the
public key. -/
def address (secret : Nat) : Address :=
  let (x, y) := (Point.multiple 256 secret .generator).affine
  Bytes.toBitVec 160 ((Keccak.digest (Bytes.ofNat 32 x ++ Bytes.ofNat 32 y)).drop 12)

/-- A signature with the parity of the `y` coordinate of its point. -/
structure Signature where
  r : Nat
  s : Nat
  odd : Bool
  deriving DecidableEq, Repr, Inhabited

/-- The signature of a digest with a given nonce, unless one of its numbers is zero. -/
def signWith (secret digest nonce : Nat) : Option Signature :=
  let (x, y) := (Point.multiple 256 nonce .generator).affine
  let r := x % n
  let s := inverse n nonce * ((digest + r * secret) % n) % n
  if r = 0 ∨ s = 0 then none
  else if s > n / 2 then some ⟨r, n - s, y % 2 = 0⟩
  else some ⟨r, s, y % 2 = 1⟩

/-- The state of the generator of nonces. -/
structure Generator where
  key : Bytes
  value : Bytes

namespace Generator

def update (g : Generator) (data : Bytes) : Generator :=
  let key := Sha256.hmac g.key (g.value ++ data)
  ⟨key, Sha256.hmac key g.value⟩

def start (secret digest : Nat) : Generator :=
  let seed := Bytes.ofNat 32 secret ++ Bytes.ofNat 32 (digest % n)
  ((Generator.mk (Bytes.zeros 32) (List.replicate 32 0x01)).update (0x00 :: seed)).update
    (0x01 :: seed)

def next (g : Generator) : Generator :=
  { g with value := Sha256.hmac g.key g.value }

end Generator

/-- The signature with the first nonce that serves, of which a few are tried. -/
def signFrom (secret digest : Nat) : (tries : Nat) → Generator → Option Signature
  | 0, _ => none
  | tries + 1, g =>
    let g := g.next
    let nonce := Bytes.toNat g.value
    let signature := if isSecret nonce then signWith secret digest nonce else none
    match signature with
    | some signature => some signature
    | none => signFrom secret digest tries (g.update [0x00])

/-- The signature of a digest. That no nonce of 64 serves does not happen in practice. -/
def sign (secret : Nat) (digest : Hash) : Signature :=
  (signFrom secret digest.toNat 64 (.start secret digest.toNat)).getD ⟨0, 0, false⟩

end ContractCalls.Secp256k1
