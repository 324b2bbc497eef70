import ContractCalls.Abi.Error
import ContractCalls.Abi.Size

/-!
# Head and tail

A sequence of fields is written as a head followed by a tail. A static field stands in the head. A
dynamic field stands in the tail, and the head has a word with its offset from the start of the
head. Offsets are sizes, and one that is out of range goes on at zero.
-/

namespace ContractCalls.Abi

/-! ### Writing -/

/-- An encoded field, with the room that its type takes in the head. -/
structure Field where
  dynamic : Bool
  headSize : Nat
  body : Bytes

/-- The length of the head. -/
def headLength : List Field → Nat
  | [] => 0
  | f :: fs => f.headSize + headLength fs

/-- The head, if the next dynamic field is to stand at `offset`. -/
def layHead : (offset : Nat) → List Field → Bytes
  | _, [] => []
  | offset, f :: fs =>
    if f.dynamic then Bytes.ofNat 32 (Size.wrap offset) ++ layHead (offset + f.body.length) fs
    else f.body ++ layHead offset fs

/-- The dynamic fields one after the other. -/
def layTail : List Field → Bytes
  | [] => []
  | f :: fs => if f.dynamic then f.body ++ layTail fs else layTail fs

def layOut (fields : List Field) : Bytes :=
  layHead (headLength fields) fields ++ layTail fields

/-! ### Reading -/

/-- The word at `offset`. -/
def readWord (data : Bytes) (offset : Nat) : Except AbiError Word :=
  if offset + 32 ≤ data.length then .ok (Bytes.toBitVec 256 ((data.drop offset).take 32))
  else .error (.bufferOverrun offset 32 data.length)

/-- The word at `offset` as an offset, a length or a count, at most the length of the data. -/
def readSize (data : Bytes) (offset : Nat) : Except AbiError Nat := do
  let word ← readWord data offset
  if word.toNat < Size.limit && word.toNat ≤ data.length then return word.toNat
  else throw (.invalidLength word)

/-- The `length` bytes at `offset`. -/
def readSlice (data : Bytes) (offset length : Nat) : Except AbiError Bytes :=
  if offset + length ≤ data.length then .ok ((data.drop offset).take length)
  else .error (.bufferOverrun offset length data.length)

/-- A field to be read, from the place where its encoding starts to the end of the data. -/
structure FieldReader (α : Type) where
  dynamic : Bool
  headSize : Nat
  read : Bytes → Except AbiError α

/-- Reads the field whose place in the head is `head`. -/
def FieldReader.readAt {α : Type} (f : FieldReader α) (data : Bytes) (head : Nat) :
    Except AbiError α :=
  if f.dynamic then do f.read (data.drop (← readSize data head))
  else if head ≤ data.length then f.read (data.drop head)
  else .error (.bufferOverrun head f.headSize data.length)

/-- Reads fields whose heads start at `head`. -/
def readFields {α : Type} : List (FieldReader α) → (data : Bytes) → (head : Nat) →
    Except AbiError (List α)
  | [], _, _ => .ok []
  | f :: fs, data, head => do
    let value ← f.readAt data head
    let values ← readFields fs data (Size.saturate (head + f.headSize))
    return value :: values

end ContractCalls.Abi
