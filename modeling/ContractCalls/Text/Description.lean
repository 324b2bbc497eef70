import ContractCalls.Hex
import ContractCalls.Text.Quoted

/-!
# One-line descriptions

The shapes in which values are described for people: a constructor with arguments, a record with
named fields, a list, and an optional value.
-/

namespace ContractCalls.Text

/-- Items in brackets. -/
def bracketed (items : List String) : String :=
  "[" ++ ", ".intercalate items ++ "]"

/-- A constructor with arguments. -/
def applied (name : String) (args : List String) : String :=
  name ++ "(" ++ ", ".intercalate args ++ ")"

/-- Texts in braces after a name. -/
def braced (name : String) (texts : List String) : String :=
  name ++ " \x7b " ++ ", ".intercalate texts ++ " \x7d"

def fieldText (field : String × String) : String :=
  field.1 ++ ": " ++ field.2

/-- A record with all its fields. -/
def record (name : String) (fields : List (String × String)) : String :=
  braced name (fields.map fieldText)

/-- A record of which only some fields are shown. -/
def partialRecord (name : String) (fields : List (String × String)) : String :=
  braced name (fields.map fieldText ++ [".."])

def optional {α : Type} (describe : α → String) : Option α → String
  | none => "None"
  | some x => applied "Some" [describe x]

end ContractCalls.Text
