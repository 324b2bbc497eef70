/-!
# Fees

A transaction pays either one gas price or, per unit of gas, a base fee and a priority fee up to a
maximum.
-/

namespace ContractCalls

inductive Fees where
  | dynamic (max priority : Nat)
  | legacy (price : Nat)
  deriving DecidableEq, Repr, Inhabited

/-- The fee fields of a request, each of which may be missing. -/
structure FeeFields where
  gasPrice : Option Nat := none
  maxFee : Option Nat := none
  maxPriorityFee : Option Nat := none
  deriving DecidableEq, Repr, Inhabited

namespace FeeFields

/-- The fees that the fields stand for: a maximum with a priority fee goes before a gas price. -/
def fees : FeeFields → Option Fees
  | ⟨_, some max, some priority⟩ => some (.dynamic max priority)
  | ⟨some price, _, _⟩ => some (.legacy price)
  | _ => none

end FeeFields

/-- The fields that stand for the fees and for nothing else. -/
def Fees.fields : Fees → FeeFields
  | dynamic max priority => ⟨none, some max, some priority⟩
  | legacy price => ⟨some price, none, none⟩

theorem FeeFields.fees_fields (f : Fees) : f.fields.fees = some f := by
  cases f <;> rfl

end ContractCalls
