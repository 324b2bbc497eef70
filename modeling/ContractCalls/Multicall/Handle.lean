import ContractCalls.Revert

/-!
# Handles

A handle is settled once with the outcome of a call in an aggregate, and the outcome can be taken
once. A handle whose aggregate is gone without settling it reports that the call was not executed.
-/

namespace ContractCalls

/-- What an aggregate returns: for each of its calls the data or an error. -/
abbrev AggregateOutput := List (Except ContractError Bytes)

/-- The result of a call in an aggregate, which may be an aggregate itself. -/
inductive Outcome where
  | values (values : List AbiValue)
  | output (output : AggregateOutput)

/-- The settling of one handle. -/
structure Settlement where
  handle : Nat
  outcome : Except ContractError Outcome

inductive HandleState where
  | waiting
  | settled (outcome : Except ContractError Outcome)
  /-- The outcome was taken, or the aggregate is gone. -/
  | closed

/-- The states of the handles, which are numbered in the order of their making. -/
abbrev Handles := List HandleState

namespace Handles

/-- A new handle. -/
def add (hs : Handles) : Handles × Nat :=
  (hs ++ [.waiting], hs.length)

def state (hs : Handles) (handle : Nat) : HandleState :=
  hs.getD handle .closed

/-- Settles a handle that waits. -/
def settle (hs : Handles) (s : Settlement) : Handles :=
  match hs.state s.handle with
  | .waiting => hs.set s.handle (.settled s.outcome)
  | _ => hs

def settleAll (hs : Handles) (settlements : List Settlement) : Handles :=
  settlements.foldl settle hs

/-- Closes a handle that waits, as its aggregate is gone. -/
def close (hs : Handles) (handle : Nat) : Handles :=
  match hs.state handle with
  | .waiting => hs.set handle .closed
  | _ => hs

def closeAll (hs : Handles) (handles : List Nat) : Handles :=
  handles.foldl close hs

/-- Takes the outcome of a handle, if it does not wait. -/
def tryTake (hs : Handles) (handle : Nat) : Handles × Option (Except ContractError Outcome) :=
  match hs.state handle with
  | .waiting => (hs, none)
  | .settled outcome => (hs.set handle .closed, some outcome)
  | .closed => (hs, some (.error .notExecuted))

end Handles

end ContractCalls
