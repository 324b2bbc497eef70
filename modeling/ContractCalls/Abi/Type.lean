import ContractCalls.Abi.Error
import ContractCalls.Abi.Size

/-!
# Types

The types of arguments and results, their canonical text, and the room they take in the head of a
sequence: a dynamic type takes one word, which holds an offset, and a static type takes all the
words of its leaves.
-/

namespace ContractCalls

inductive AbiType where
  | address
  | bool
  | uint (bits : Nat)
  | int (bits : Nat)
  | fixedBytes (size : Nat)
  | bytes
  | string
  | array (elem : AbiType)
  | fixedArray (elem : AbiType) (length : UInt64)
  | tuple (fields : List AbiType)
  | struct (name : String) (fields : List AbiType)
  deriving BEq, Repr, Inhabited

namespace AbiType

/-! ### Canonical text -/

mutual

/-- The canonical text; a struct is written as the tuple of its fields. -/
def text : AbiType → String
  | address => "address"
  | bool => "bool"
  | uint bits => s!"uint{bits}"
  | int bits => s!"int{bits}"
  | fixedBytes size => s!"bytes{size}"
  | bytes => "bytes"
  | string => "string"
  | array elem => s!"{elem.text}[]"
  | fixedArray elem length => s!"{elem.text}[{length.toNat}]"
  | tuple fields => s!"({listText fields})"
  | struct _ fields => s!"({listText fields})"

/-- Canonical texts with commas between them. -/
def listText : List AbiType → String
  | [] => ""
  | [t] => t.text
  | t :: u :: ts => s!"{t.text},{listText (u :: ts)}"

end

/-! ### Layout -/

mutual

/-- A value of a dynamic type stands behind an offset. A fixed array without elements is static. -/
def isDynamic : AbiType → Bool
  | bytes | string | array _ => true
  | fixedArray elem length => length != 0 && elem.isDynamic
  | tuple fields | struct _ fields => anyDynamic fields
  | _ => false

def anyDynamic : List AbiType → Bool
  | [] => false
  | t :: ts => t.isDynamic || anyDynamic ts

end

mutual

/-- The bytes taken in the head, if their number is a size. -/
def headSize? : AbiType → Option Nat
  | fixedArray elem length =>
    if length != 0 && elem.isDynamic then some 32
    else elem.headSize? >>= fun size => Size.check? (length.toNat * size)
  | tuple fields | struct _ fields =>
    if anyDynamic fields then some 32 else inlineSize? fields
  | _ => some 32

/-- The head sizes of several types together, if they and their sum are sizes. -/
def inlineSize? : List AbiType → Option Nat
  | [] => some 0
  | t :: ts => do Size.check? ((← t.headSize?) + (← inlineSize? ts))

end

/-- The bytes taken in the head, or the largest size if there are more. -/
def headSize (t : AbiType) : Nat :=
  t.headSize?.getD Size.max

/-- The bytes taken by the heads of several types in a row. -/
def headSizes (types : List AbiType) : Nat :=
  types.foldl (fun size t => Size.saturate (size + t.headSize)) 0

/-! ### Legal types -/

/-- Integer widths are the multiples of eight from 8 to 256. -/
def isIntegerWidth (bits : Nat) : Bool :=
  bits != 0 && bits ≤ 256 && bits % 8 == 0

mutual

/-- The first integer or byte type of an illegal width is an error. -/
def checkWidths : AbiType → Except AbiError Unit
  | uint bits => if isIntegerWidth bits then .ok () else .error (.invalidType (uint bits).text)
  | int bits => if isIntegerWidth bits then .ok () else .error (.invalidType (int bits).text)
  | fixedBytes size =>
    if size != 0 && size ≤ 32 then .ok () else .error (.invalidType (fixedBytes size).text)
  | array elem => elem.checkWidths
  | fixedArray elem _ => elem.checkWidths
  | tuple fields | struct _ fields => checkAllWidths fields
  | _ => .ok ()

def checkAllWidths : List AbiType → Except AbiError Unit
  | [] => .ok ()
  | t :: ts => do t.checkWidths; checkAllWidths ts

end

/-- A legal type has legal widths throughout and a head whose length is a size. -/
def validate (t : AbiType) : Except AbiError Unit := do
  t.checkWidths
  if t.headSize?.isNone then throw (.invalidType t.text)

end AbiType

end ContractCalls
