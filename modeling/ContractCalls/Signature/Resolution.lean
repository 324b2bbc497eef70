import ContractCalls.Abi.Type
import ContractCalls.Signature.Grammar
import ContractCalls.Text.Blank

/-!
# Types from text

The type that a text stands for: first the grammar, then the names of the elementary types from left
to right, then the legality of the whole.
-/

namespace ContractCalls

namespace Signature

/-- The number that a text of decimal digits stands for, if it is a size. -/
def decimal? (s : List Char) : Option Nat :=
  if s.isEmpty || !s.all Char.isDigit then none
  else
    let n := s.foldl (fun n c => 10 * n + (c.toNat - 48)) 0
    if n < UInt64.size then some n else none

/-- Why a name is no elementary type. -/
inductive NameError where
  | unknown (name : String)
  | illegalSize (name : String)
  deriving DecidableEq, Repr

def NameError.message : NameError → String
  | unknown name => s!"invalid type string: {name}"
  | illegalSize name => s!"invalid size for type: {name}"

/-- An elementary type whose name ends in a legal number. -/
def sized (name : String) (digits : List Char) (isLegal : Nat → Bool) (type : Nat → AbiType) :
    Except NameError (Option AbiType) :=
  match decimal? digits with
  | some n => if isLegal n then .ok (some (type n)) else .error (.illegalSize name)
  | none => .error (.illegalSize name)

/-- The elementary type of a name. Values of the type `function` have no representation: it is a
known name that stands for no type. -/
def rootType (name : String) : Except NameError (Option AbiType) :=
  match name with
  | "address" => .ok (some .address)
  | "bool" => .ok (some .bool)
  | "string" => .ok (some .string)
  | "bytes" => .ok (some .bytes)
  | "function" => .ok none
  | _ =>
    match word? "bytes" name.toList, word? "uint" name.toList, word? "int" name.toList with
    | some digits, _, _ => sized name digits (fun n => n != 0 && n ≤ 32) .fixedBytes
    | _, some digits, _ => sized name digits AbiType.isIntegerWidth .uint
    | _, _, some digits => sized name digits AbiType.isIntegerWidth .int
    | _, _, _ => .error (.unknown name)

/-- A type with array brackets behind it. -/
def withSizes (type : AbiType) (sizes : List (Option UInt64)) : AbiType :=
  sizes.foldl (fun elem size => size.elim (.array elem) (.fixedArray elem)) type

namespace TypeSpec

mutual

/-- The type that is written, or none if it mentions `function`. -/
def resolve : TypeSpec → Except NameError (Option AbiType)
  | root name sizes => do return (← rootType name).map (withSizes · sizes)
  | tuple components sizes => do
    return (← resolveAll components).map fun fields => withSizes (.tuple fields) sizes

def resolveAll : List TypeSpec → Except NameError (Option (List AbiType))
  | [] => .ok (some [])
  | spec :: specs => do
    let type ← spec.resolve
    let types ← resolveAll specs
    return type.bind fun type => types.map (type :: ·)

end

/-- The text of array brackets. -/
def sizesText (sizes : List (Option UInt64)) : String :=
  String.join (sizes.map fun size => size.elim "[]" fun n => s!"[{n.toNat}]")

mutual

/-- The canonical text of a parameter. A tuple without components has no canonical text and is
named. -/
def text : TypeSpec → String
  | root name sizes => name ++ sizesText sizes
  | tuple [] sizes => "tuple" ++ sizesText sizes
  | tuple (c :: cs) sizes => s!"({listText (c :: cs)})" ++ sizesText sizes

def listText : List TypeSpec → String
  | [] => ""
  | [c] => c.text
  | c :: d :: cs => s!"{c.text},{listText (d :: cs)}"

end

end TypeSpec

end Signature

open Signature in
/-- Reads a legal type. -/
def AbiType.parse (text : String) : Except AbiError AbiType :=
  match wholeType (Text.trim text.toList) with
  | none => .error (.malformed text)
  | some spec =>
    match spec.resolve with
    | .error err => .error (.invalidType s!"{text}: {err.message}")
    | .ok none => .error (.invalidType "function")
    | .ok (some type) => do
      type.validate
      return type

end ContractCalls
