import ContractCalls.Config
import ContractCalls.Node

/-!
# Inclusion

Waiting until a submitted transaction is in a block that is deep enough in the chain. The receipt is
asked for a limited number of times. The number of the latest block is then asked for until it is
large enough; network errors pass in both cases.
-/

namespace ContractCalls

inductive InclusionError where
  | notIncluded (hash : Hash) (retries : Nat)
  | reverted (hash : Hash) (block : Nat)
  | provider (error : RpcError)
  deriving DecidableEq, Repr, Inhabited

def InclusionError.message : InclusionError → String
  | notIncluded hash retries =>
    s!"transaction {Hex.ofBitVec hash} not included after {retries} receipt polls"
  | reverted hash block => s!"transaction {Hex.ofBitVec hash} reverted in block {block}"
  | provider error => error.text

/-- A submitted transaction, and what is made of its receipt. -/
structure PendingInclusion (ρ : Type) where
  hash : Hash
  config : InclusionConfig
  view : Receipt → ρ

/-- The result of a wait and the number of intervals slept. -/
structure Waited (α : Type) where
  result : Except InclusionError α
  sleeps : Nat
  deriving Inhabited

/-- The time slept in all, in milliseconds. -/
def Waited.elapsed {α : Type} (waited : Waited α) (config : InclusionConfig) : Nat :=
  waited.sleeps * config.sleep

/-- Repeats a query until its answer decides, at most a given number of times, and counts the sleeps
between. Nothing is left if no answer decided. -/
def poll {σ α β : Type} (query : StateM σ α) (decided : α → Option β) :
    (times : Nat) → StateM σ (Option β × Nat)
  | 0 => pure (none, 0)
  | times + 1 => do
    match decided (← query) with
    | some outcome => return (some outcome, 0)
    | none =>
      if times = 0 then return (none, 0)
      else
        let (outcome, sleeps) ← poll query decided times
        return (outcome, sleeps + 1)

/-- A receipt decides, and so does an error that does not pass by itself. -/
def receiptDecided : Except RpcError (Option Receipt) → Option (Except RpcError Receipt)
  | .ok receipt => receipt.map .ok
  | .error err => if err.kind.isRetryable then none else some (.error err)

/-- A latest block decides that comes `depth` blocks after a given one, and so does an error that
does not pass by itself. -/
def depthDecided (block depth : Nat) : Except RpcError Nat → Option (Except RpcError Unit)
  | .ok latest => if latest - block ≥ depth then some (.ok ()) else none
  | .error err => if err.kind.isRetryable then none else some (.error err)

namespace PendingInclusion

variable {σ : Type} [Node σ]

variable {ρ : Type}

/-- Waits for the inclusion. The latest block is asked for at most `polls` times; a wait that this
does not suffice for has no result. -/
def wait (pending : PendingInclusion ρ) (polls : Nat) : StateM σ (Option (Waited ρ)) := do
  let (outcome, sleeps) ←
    poll (Node.receipt pending.hash).run receiptDecided pending.config.retries
  match outcome with
  | none => return some ⟨.error (.notIncluded pending.hash pending.config.retries), sleeps⟩
  | some (.error err) => return some ⟨.error (.provider err), sleeps⟩
  | some (.ok receipt) =>
    if !receipt.status then
      return some ⟨.error (.reverted pending.hash receipt.block), sleeps⟩
    else if pending.config.confirmations ≤ 1 then return some ⟨.ok (pending.view receipt), sleeps⟩
    else
      let (deep, more) ←
        poll Node.blockNumber.run
          (depthDecided receipt.block (pending.config.confirmations - 1)) polls
      match deep with
      | none => return none
      | some (.error err) => return some ⟨.error (.provider err), sleeps + more⟩
      | some (.ok ()) => return some ⟨.ok (pending.view receipt), sleeps + more⟩

def describe (pending : PendingInclusion ρ) : String :=
  Text.partialRecord "PendingInclusion"
    [("tx_hash", Hex.ofBitVec pending.hash), ("config", pending.config.describe)]

end PendingInclusion

end ContractCalls
