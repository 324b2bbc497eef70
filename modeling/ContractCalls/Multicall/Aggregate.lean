import ContractCalls.Call
import ContractCalls.Multicall.Batch
import ContractCalls.Multicall.Handle

/-!
# Aggregates

Calls collected into one call of the multicall contract. An aggregate may hold other aggregates, and
each call in it has a handle for its outcome. The outcomes are read off the results of the multicall
contract, call by call.
-/

namespace ContractCalls

/-- A call of an aggregate. -/
structure Entry (α : Type) where
  handle : Nat
  allowFailure : Bool
  call : α

/-- A batch that has been encoded, kept until there are more calls. -/
structure EncodedBatch where
  count : Nat
  strategy : Strategy
  value : Word
  calldata : Bytes
  deriving DecidableEq, Repr, Inhabited

/-- An aggregate of calls of type `α`. -/
structure AggregateOf (α : Type) where
  /-- The client that dispatches the aggregate, and whose custom errors its calls fail with. -/
  client : Client
  deployment : Deployment
  entries : List (Entry α) := []
  /-- Some call has a value. -/
  anyPayable : Bool := false
  /-- Some call differs from the first one in whether it may fail. -/
  mixedFailure : Bool := false
  encoded : Option EncodedBatch := none
  request : CallRequest
  options : CallOptions := {}

inductive QueuedCall where
  | single (call : ReadCall)
  | nested (aggregate : AggregateOf QueuedCall)

abbrev Aggregate := AggregateOf QueuedCall

/-- The sum of two values, or the largest value. -/
def addValues (a b : Word) : Word :=
  if a.uaddOverflow b then -1 else a + b

mutual

/-- The value that a call takes along. -/
def QueuedCall.value : QueuedCall → Word
  | .single call => call.request.value
  | .nested a => AggregateOf.totalValue a

/-- The values of all calls together. -/
def AggregateOf.totalValue : Aggregate → Word
  | ⟨_, _, entries, _, _, _, _, _⟩ => Entry.sumValues 0 entries

def Entry.sumValues : Word → List (Entry QueuedCall) → Word
  | sum, [] => sum
  | sum, ⟨_, _, call⟩ :: entries => Entry.sumValues (addValues sum call.value) entries

end

def QueuedCall.target : QueuedCall → Address
  | .single call => call.request.target
  | .nested a => a.deployment.address

namespace AggregateOf

/-- An aggregate without calls. -/
def empty (client : Client) (deployment : Deployment) : Aggregate :=
  { client, deployment, request := client.newRequest deployment.address [] }

/-- The first call may fail. -/
def firstMayFail (a : Aggregate) : Bool :=
  a.entries.head?.any (·.allowFailure)

def strategy (a : Aggregate) : Strategy :=
  .select a.anyPayable a.mixedFailure a.firstMayFail

/-- Adds a call with a handle for its outcome. -/
def add (a : Aggregate) (call : QueuedCall) (allowFailure : Bool) (handle : Nat) : Aggregate :=
  { a with
    entries := a.entries ++ [⟨handle, allowFailure, call⟩]
    anyPayable := a.anyPayable || call.value != 0
    mixedFailure := a.mixedFailure || a.entries.head?.any (·.allowFailure != allowFailure) }

def withInjectedCode (a : Aggregate) : Aggregate :=
  { a with deployment := a.deployment.withInjectedCode }

def describe (a : Aggregate) : String :=
  Text.partialRecord "AggregateCall"
    [("deployment", a.deployment.describe), ("calls", toString a.entries.length),
      ("any_payable", toString a.anyPayable), ("mixed_failure", toString a.mixedFailure)]

end AggregateOf

/-! ### Custom errors -/

mutual

/-- The call with `errors` as what the clients of all aggregates in it know. Clients of the same
origin share their registry, so an error that is registered later is known to aggregates that were
made before. -/
def QueuedCall.knowing (errors : ErrorRegistry) : QueuedCall → QueuedCall
  | .single call => .single call
  | .nested a => .nested (AggregateOf.knowing errors a)

def AggregateOf.knowing (errors : ErrorRegistry) : Aggregate → Aggregate
  | ⟨client, deployment, entries, anyPayable, mixedFailure, encoded, request, options⟩ =>
    ⟨{ client with errors }, deployment, Entry.knowing errors entries, anyPayable, mixedFailure,
      encoded, request, options⟩

def Entry.knowing (errors : ErrorRegistry) : List (Entry QueuedCall) → List (Entry QueuedCall)
  | [] => []
  | ⟨handle, allowFailure, call⟩ :: entries =>
    ⟨handle, allowFailure, call.knowing errors⟩ :: Entry.knowing errors entries

end

/-! ### Encoding -/

mutual

/-- The calldata of a call, which an aggregate keeps. -/
def QueuedCall.calldata : QueuedCall → Except AbiError (Bytes × QueuedCall)
  | .single call => .ok (call.request.data, .single call)
  | .nested a => do
    let (encoded, a) ← AggregateOf.encode a
    return (encoded.calldata, .nested a)

/-- The encoded batch: the one that is kept if there are no more calls since, else a new one. -/
def AggregateOf.encode : Aggregate → Except AbiError (EncodedBatch × Aggregate)
  | ⟨client, deployment, entries, anyPayable, mixedFailure, kept, request, options⟩ =>
    let a : Aggregate :=
      ⟨client, deployment, entries, anyPayable, mixedFailure, kept, request, options⟩
    match kept.filter (·.count == entries.length) with
    | some encoded => .ok (encoded, a)
    | none => do
      let (calls, entries) ← Entry.batchCalls entries
      let calldata ← (Batch.mk a.strategy calls).encode
      let encoded := ⟨entries.length, a.strategy, a.totalValue, calldata⟩
      return (encoded, { a with entries, encoded := some encoded })

/-- Entries as calls of a batch. -/
def Entry.batchCalls :
    List (Entry QueuedCall) → Except AbiError (List BatchCall × List (Entry QueuedCall))
  | [] => .ok ([], [])
  | ⟨handle, allowFailure, call⟩ :: entries => do
    let (data, encodedCall) ← call.calldata
    let (calls, entries) ← Entry.batchCalls entries
    return (⟨call.target, allowFailure, call.value, data⟩ :: calls,
      ⟨handle, allowFailure, encodedCall⟩ :: entries)

end

/-! ### Settling -/

mutual

/-- The handles of all calls, also of those in aggregates within. -/
def AggregateOf.handles : Aggregate → List Nat
  | ⟨_, _, entries, _, _, _, _, _⟩ => Entry.handles entries

def Entry.handles : List (Entry QueuedCall) → List Nat
  | [] => []
  | ⟨handle, _, .single _⟩ :: entries => handle :: Entry.handles entries
  | ⟨handle, _, .nested a⟩ :: entries =>
    AggregateOf.handles a ++ handle :: Entry.handles entries

end

mutual

/-- Settles all handles with an error. -/
def AggregateOf.fail (err : ContractError) : Aggregate → List Settlement
  | ⟨_, _, entries, _, _, _, _, _⟩ => Entry.failAll err entries

def Entry.failAll (err : ContractError) : List (Entry QueuedCall) → List Settlement
  | [] => []
  | ⟨handle, _, .single _⟩ :: entries => ⟨handle, .error err⟩ :: Entry.failAll err entries
  | ⟨handle, _, .nested a⟩ :: entries =>
    AggregateOf.fail err a ++ ⟨handle, .error err⟩ :: Entry.failAll err entries

end

/-- The results in a multicall answer, of which there have to be as many as calls. -/
def resultsFor (count : Nat) (data : Bytes) : Except ContractError (List (Bool × Bytes)) :=
  match decodeResults data with
  | .error err => .error (.ofAbi data err)
  | .ok results =>
    if results.length = count then .ok results
    else
      .error (.decoding data s!"multicall returned {results.length} results for {count} calls" none)

mutual

/-- Settles all handles from a multicall answer: those of successful calls with what their decoders
read, the others with the error that their data stand for to the client of the aggregate. -/
def AggregateOf.distribute (data : Bytes) :
    Aggregate → Except ContractError AggregateOutput × List Settlement
  | ⟨client, _, entries, _, _, _, _, _⟩ =>
    match resultsFor entries.length data with
    | .error err => (.error err, Entry.failAll err entries)
    | .ok results =>
      let (output, settlements) := Entry.distribute client.errors results entries
      (.ok output, settlements)

/-- Settles the handles of entries from the results at their places. The entries are those of an
aggregate that knows `errors`; aggregates among them go by what they know themselves. -/
def Entry.distribute (errors : ErrorRegistry) : List (Bool × Bytes) → List (Entry QueuedCall) →
    AggregateOutput × List Settlement
  | (success, data) :: results, ⟨handle, _, call⟩ :: entries =>
    let (outcome, within) :=
      if success then QueuedCall.complete data call
      else
        let err := errors.decodeRevert data
        (.error err, call.failWithin err)
    let (output, settlements) := Entry.distribute errors results entries
    (outcome.map (fun _ => data) :: output, within ++ ⟨handle, outcome⟩ :: settlements)
  | _, _ => ([], [])

/-- The outcome of a successful call, after the settling of the handles within it. -/
def QueuedCall.complete (data : Bytes) :
    QueuedCall → Except ContractError Outcome × List Settlement
  | .single call => ((call.decoder data).map .values, [])
  | .nested a =>
    let (outcome, settlements) := AggregateOf.distribute data a
    (outcome.map .output, settlements)

/-- Settles the handles within a failed call. -/
def QueuedCall.failWithin (err : ContractError) : QueuedCall → List Settlement
  | .single _ => []
  | .nested a => AggregateOf.fail err a

end

end ContractCalls
