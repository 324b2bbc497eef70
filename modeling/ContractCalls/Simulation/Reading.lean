import ContractCalls.Revert.Registry
import ContractCalls.Text.Upper

/-!
# Other ways to read data

Functions that change decoded values, as a caller may put them behind the decoder of a call or of an
error.
-/

namespace ContractCalls

/-- Changes the values that a call returns, or refuses them. -/
abbrev ValueMap := List AbiValue → Except ContractError (List AbiValue)

namespace ValueMap

def first : ValueMap
  | value :: _ => .ok [value]
  | [] => .error (.decoding [] "no values" none)

def reverse : ValueMap := fun values =>
  .ok values.reverse

/-- Puts the elements of a composite value in its place. -/
def flatten : ValueMap := fun values =>
  .ok (values.flatMap fun value => value.elems?.getD [value])

/-- Refuses all values, and tells how many there were. -/
def refuse : ValueMap := fun values =>
  .error (.decoding [.ofNat values.length] s!"mapper saw {values.length} values" none)

end ValueMap

/-- The error with its name in upper case and its fields in reverse. -/
def ErrorDefinition.upperReversed (d : ErrorDefinition) : ErrorDefinition :=
  { d with build := fun name selector fields => ⟨Text.upper name, selector, fields.reverse⟩ }

end ContractCalls
