/-!
# JSON values

Numbers are integers or decimal fractions `mantissa * 10 ^ exponent`; the members of an object keep
their order, and the last of several members with one name counts.
-/

namespace ContractCalls

inductive Json where
  | null
  | bool (b : Bool)
  | integer (n : Int)
  | decimal (mantissa exponent : Int)
  | string (text : String)
  | array (items : List Json)
  | object (members : List (String × Json))
  deriving Inhabited, Repr

namespace Json

/-- The member of an object with a name. -/
def get? (j : Json) (name : String) : Option Json :=
  match j with
  | object members => (members.reverse.find? (·.1 == name)).map (·.2)
  | _ => none

/-- The member of an object with a name. Where there is none the result is `null`. -/
def get (j : Json) (name : String) : Json :=
  (j.get? name).getD null

/-- The members of an object that are given. -/
def ofMembers (members : List (String × Option Json)) : Json :=
  object (members.filterMap fun (name, value) => value.map (name, ·))

def isNull : Json → Bool
  | null => true
  | _ => false

def bool? : Json → Option Bool
  | bool b => some b
  | _ => none

def string? : Json → Option String
  | string text => some text
  | _ => none

def array? : Json → Option (List Json)
  | array items => some items
  | _ => none

def object? : Json → Option (List (String × Json))
  | object members => some members
  | _ => none

def ofOption {α : Type} (f : α → Json) (x : Option α) : Json :=
  x.elim null f

end Json

end ContractCalls
