import ContractCalls.Proofs.Multicall.Dispatch
import ContractCalls.Proofs.Multicall.Value
import ContractCalls.Proofs.Simulation.Contract
import ContractCalls.Proofs.Simulation.Revert

/-!
# Batching and running calls one by one

What the calls of an aggregate come to if each is run alone, and that an aggregate dispatched to a
simulated chain comes to the same by one request, however deep aggregates nest.
-/

namespace ContractCalls

/-! ### One by one -/

/-- The revert data of a batch with a failed call that must not fail. -/
def callFailed : Bytes :=
  errorString "Multicall3: call failed"

/-- An answer as it stands in the results of a batch. -/
def Answer.result : Answer → Bool × Bytes
  | .ok data => (true, data)
  | .error data => (false, data)

section

variable (run : CallRequest → Answer)

mutual

/-- The answer to a call that the multicall contract runs alone. -/
def QueuedCall.answer : QueuedCall → Answer
  | .single call =>
    run { target := call.request.target, sender := some canonicalMulticall,
          value := call.request.value, data := call.request.data }
  | .nested a => AggregateOf.answer a

/-- An aggregate fails if a call in it fails that must not, and answers with the results of all
calls otherwise. -/
def AggregateOf.answer : Aggregate → Answer
  | ⟨_, _, entries, _, _, _, _, _⟩ =>
    if Entry.anyFatal entries then .error callFailed
    else .ok (encodeResults (Entry.results entries))

/-- Some call fails that must not. -/
def Entry.anyFatal : List (Entry QueuedCall) → Bool
  | [] => false
  | ⟨_, allowFailure, call⟩ :: entries =>
    (!allowFailure && !call.answer.isOk) || Entry.anyFatal entries

def Entry.results : List (Entry QueuedCall) → List (Bool × Bytes)
  | [] => []
  | ⟨_, _, call⟩ :: entries => Answer.result call.answer :: Entry.results entries

end

lemma Entry.length_results (entries : List (Entry QueuedCall)) :
    (Entry.results run entries).length = entries.length := by
  induction entries with
  | nil => simp [Entry.results]
  | cons e entries ih =>
    obtain ⟨handle, allowFailure, call⟩ := e
    rw [Entry.results, List.length_cons, ih, List.length_cons]

/-- A call in the aggregate fails that must not. -/
def AggregateOf.fails (a : Aggregate) : Bool :=
  Entry.anyFatal run a.entries

lemma AggregateOf.answer_eq (a : Aggregate) :
    a.answer run =
      if a.fails run then .error callFailed
      else .ok (encodeResults (Entry.results run a.entries)) := by
  cases a
  rw [answer, fails]

/-- What the output of an aggregate that knows `errors` holds for a call. -/
def QueuedCall.item (errors : ErrorRegistry) (call : QueuedCall) : Except ContractError Bytes :=
  match call.answer run with
  | .error data => .error (errors.decodeRevert data)
  | .ok data =>
    match call with
    | .single c => (c.decoder data).map fun _ => data
    | .nested _ => .ok data

/-- The outcome for the handle of a call in an aggregate that knows `errors`. -/
def QueuedCall.outcome (errors : ErrorRegistry) (call : QueuedCall) :
    Except ContractError Outcome :=
  match call.answer run with
  | .error data => .error (errors.decodeRevert data)
  | .ok data =>
    match call with
    | .single c => (c.decoder data).map .values
    | .nested a => .ok (.output (a.entries.map (·.call.item run a.client.errors)))

mutual

/-- The outcomes for the handles within a call. -/
def QueuedCall.settlements (errors : ErrorRegistry) : QueuedCall → List Settlement
  | .single _ => []
  | .nested a => AggregateOf.settlements errors a

/-- All handles of an aggregate that fails have its error, which is read by `errors`, and all others
the outcomes of their own calls, by what the client of the aggregate knows. -/
def AggregateOf.settlements (errors : ErrorRegistry) : Aggregate → List Settlement
  | ⟨client, _, entries, _, _, _, _, _⟩ =>
    if Entry.anyFatal run entries then
      (Entry.handles entries).map (⟨·, .error (errors.decodeRevert callFailed)⟩)
    else Entry.settlements client.errors entries

def Entry.settlements (errors : ErrorRegistry) : List (Entry QueuedCall) → List Settlement
  | [] => []
  | ⟨handle, _, call⟩ :: entries =>
    call.settlements errors ++
      ⟨handle, call.outcome run errors⟩ :: Entry.settlements errors entries

end

end

/-! ### The run of a batch -/

/-- The aggregate belongs to the multicall contract at its usual address. -/
def AggregateOf.IsPlaced (a : Aggregate) : Prop :=
  a.deployment.address = canonicalMulticall

namespace AggregateOf

variable {a : Aggregate}

lemma decode?_data (hsound : a.IsSound) (hlen : a.data.length < Size.limit) :
    Batch.decode? a.data = some a.batch := by
  rw [data_eq] at hlen ⊢
  exact Batch.decode?_calldata hsound.keeps hlen

/-- The multicall contract runs just the calls of an aggregate, as their values add up. -/
lemma runBatch_eq (hsound : a.IsSound) (hsum : Entry.leafSum a.entries < 2 ^ 256)
    (hlen : a.data.length < Size.limit) (run : CallRequest → Answer) {r : CallRequest}
    (hvalue : r.value = a.totalValue) (hdata : r.data = a.data) :
    SimulatedContract.runBatch run r =
      (SimulatedContract.runBatchCalls run r.target a.calls).map encodeResults := by
  have htotal : a.calls.foldl (fun sum call => sum + call.value) 0 = r.value := by
    rw [hvalue, totalValue_eq, calls, ← Entry.sumValues_eq]
    exact Entry.foldl_add_value a.entries 0 (by simpa using hsum)
  rw [SimulatedContract.runBatch, hdata, decode?_data hsound hlen]
  simp only [batch, htotal, ne_eq, not_true_eq_false, and_false, if_false]

end AggregateOf

mutual

/-- Run by the multicall contract, a call answers as it does alone. -/
theorem QueuedCall.run_eq_answer {contracts : Contracts}
    (hnone : contracts.lookup canonicalMulticall = none) (call : QueuedCall)
    (hsound : call.ForAggregates AggregateOf.IsSound)
    (hplace : call.ForAggregates AggregateOf.IsPlaced) (hsum : call.leafSum < 2 ^ 256)
    (hlen : call.data.length < Size.limit) :
    contracts.run { target := call.target, sender := some canonicalMulticall,
                    value := call.value, data := call.data } = call.answer contracts.run := by
  match call with
  | .single call => rw [QueuedCall.answer, QueuedCall.target, QueuedCall.value, QueuedCall.data]
  | .nested a =>
    rw [QueuedCall.ForAggregates] at hsound hplace
    rw [QueuedCall.leafSum] at hsum
    rw [QueuedCall.data] at hlen
    rw [QueuedCall.answer, QueuedCall.target, QueuedCall.value, QueuedCall.data]
    exact AggregateOf.run_eq_answer hnone a hsound hplace hsum hlen
      (AggregateOf.forAggregates_iff.mp hplace).1 rfl rfl

/-- An aggregate that is run as a batch answers as its calls do one by one. -/
theorem AggregateOf.run_eq_answer {contracts : Contracts}
    (hnone : contracts.lookup canonicalMulticall = none) (a : Aggregate)
    (hsound : a.ForAggregates AggregateOf.IsSound) (hplace : a.ForAggregates AggregateOf.IsPlaced)
    (hsum : a.leafSum < 2 ^ 256)
    (hlen : a.data.length < Size.limit) {r : CallRequest} (htarget : r.target = canonicalMulticall)
    (hvalue : r.value = a.totalValue) (hdata : r.data = a.data) :
    contracts.run r = a.answer contracts.run := by
  match a with
  | ⟨client, deployment, entries, anyPayable, mixedFailure, encoded, request, options⟩ =>
    rw [AggregateOf.ForAggregates] at hsound hplace
    rw [AggregateOf.leafSum] at hsum
    -- what bounds the calldata of the batch bounds those of its calls
    have hshort := Batch.length_data_lt (AggregateOf.decode?_data hsound.1 hlen)
    have hcalls := Entry.runBatchCalls_eq hnone entries hsound.2 hplace.2 hsum
      fun call hcall => (hshort call hcall).trans hlen
    rw [Contracts.run_eq, htarget, hnone]
    simp only [if_true]
    rw [AggregateOf.runBatch_eq hsound.1 hsum hlen _ hvalue hdata, htarget,
      AggregateOf.calls, hcalls, AggregateOf.answer]
    split
    · rfl
    · rfl

theorem Entry.runBatchCalls_eq {contracts : Contracts}
    (hnone : contracts.lookup canonicalMulticall = none) (entries : List (Entry QueuedCall))
    (hsound : Entry.ForAggregates AggregateOf.IsSound entries)
    (hplace : Entry.ForAggregates AggregateOf.IsPlaced entries)
    (hsum : Entry.leafSum entries < 2 ^ 256)
    (hlen : ∀ call ∈ Entry.calls entries, call.data.length < Size.limit) :
    SimulatedContract.runBatchCalls contracts.run canonicalMulticall (Entry.calls entries) =
      if Entry.anyFatal contracts.run entries then .error callFailed
      else .ok (Entry.results contracts.run entries) := by
  match entries with
  | [] =>
    rw [Entry.calls, Entry.anyFatal, Entry.results, SimulatedContract.runBatchCalls]
    simp
  | ⟨handle, allowFailure, call⟩ :: entries =>
    rw [Entry.ForAggregates] at hsound hplace
    rw [Entry.leafSum] at hsum
    rw [Entry.calls, List.forall_mem_cons] at hlen
    have hcall := QueuedCall.run_eq_answer hnone call hsound.1 hplace.1 (by omega) hlen.1
    have hrest := Entry.runBatchCalls_eq hnone entries hsound.2 hplace.2 (by omega) hlen.2
    rw [Entry.calls, SimulatedContract.runBatchCalls, hcall, hrest, Entry.anyFatal, Entry.results]
    cases call.answer contracts.run with
    | ok data => cases Entry.anyFatal contracts.run entries <;> cases allowFailure <;> rfl
    | error data => cases Entry.anyFatal contracts.run entries <;> cases allowFailure <;> rfl

end

/-! ### The settling of results -/

section

variable {run : CallRequest → Answer} {errors : ErrorRegistry}

lemma AggregateOf.settlements_eq (a : Aggregate) :
    a.settlements run errors =
      if a.fails run then a.fail (errors.decodeRevert callFailed)
      else Entry.settlements run a.client.errors a.entries := by
  cases a
  rw [settlements, fails, fail, Entry.failAll_eq]

/-- The calls within a failed call have its error. -/
lemma QueuedCall.failWithin_eq_settlements {call : QueuedCall} {data : Bytes}
    (h : call.answer run = .error data) :
    call.failWithin (errors.decodeRevert data) = call.settlements run errors := by
  cases call with
  | single call => rw [failWithin, settlements]
  | nested a =>
    rw [answer, AggregateOf.answer_eq] at h
    split at h
    · next hfails =>
      obtain rfl := Except.error.inj h
      rw [failWithin, settlements, AggregateOf.settlements_eq, if_pos hfails]
    · simp at h

lemma QueuedCall.map_outcome {call : QueuedCall} {data : Bytes} (h : call.answer run = .ok data) :
    (call.outcome run errors).map (fun _ => data) = call.item run errors := by
  rw [outcome, item, h]
  cases call with
  | single call =>
    dsimp only
    cases call.decoder data with
    | error err => rfl
    | ok values => rfl
  | nested a => rfl

mutual

/-- From the answer of an aggregate its handles are settled with the outcomes of the calls. -/
theorem AggregateOf.distribute_results (errors : ErrorRegistry) (a : Aggregate)
    (hok : a.fails run = false) :
    (encodeResults (Entry.results run a.entries)).length < Size.limit →
      a.distribute (encodeResults (Entry.results run a.entries)) =
        (.ok (a.entries.map (·.call.item run a.client.errors)), a.settlements run errors) := by
  match a with
  | ⟨client, deployment, entries, anyPayable, mixedFailure, encoded, request, options⟩ =>
    intro hlen
    have hshort := length_le_of_mem_results hlen
    have hentries := Entry.distribute_results client.errors entries
      fun result hresult => (hshort result hresult).trans_lt hlen
    rw [AggregateOf.distribute, resultsFor, decodeResults_encodeResults hlen]
    simp only [Entry.length_results, if_true, hentries, AggregateOf.settlements_eq, hok,
      Bool.false_eq_true, if_false]

theorem Entry.distribute_results (errors : ErrorRegistry) (entries : List (Entry QueuedCall)) :
    (∀ result ∈ Entry.results run entries, result.2.length < Size.limit) →
      Entry.distribute errors (Entry.results run entries) entries =
        (entries.map (·.call.item run errors), Entry.settlements run errors entries) := by
  match entries with
  | [] => simp [Entry.results, Entry.distribute, Entry.settlements]
  | ⟨handle, allowFailure, call⟩ :: entries =>
    intro hlen
    rw [Entry.results, List.forall_mem_cons] at hlen
    have hrest := Entry.distribute_results errors entries hlen.2
    cases hanswer : call.answer run with
    | ok data =>
      have hdata : data.length < Size.limit := by simpa [hanswer, Answer.result] using hlen.1
      have hcomplete := QueuedCall.complete_answer errors call hanswer hdata
      rw [Entry.results, hanswer, Answer.result, Entry.distribute, Entry.settlements]
      simp only [if_true, hcomplete, hrest, QueuedCall.map_outcome hanswer, List.map_cons]
    | error data =>
      rw [Entry.results, hanswer, Answer.result, Entry.distribute, Entry.settlements]
      simp only [Bool.false_eq_true, if_false, hrest, QueuedCall.failWithin_eq_settlements hanswer,
        List.map_cons, QueuedCall.outcome, QueuedCall.item, hanswer]
      rfl

theorem QueuedCall.complete_answer (errors : ErrorRegistry) (call : QueuedCall) {data : Bytes}
    (h : call.answer run = .ok data) :
    data.length < Size.limit →
      call.complete data = (call.outcome run errors, call.settlements run errors) := by
  match call with
  | .single call =>
    intro _
    rw [QueuedCall.complete, QueuedCall.outcome, QueuedCall.settlements, h]
  | .nested a =>
    intro hlen
    rw [QueuedCall.complete, QueuedCall.outcome, QueuedCall.settlements, h]
    rw [QueuedCall.answer, AggregateOf.answer_eq] at h
    split at h
    · simp at h
    · next hfails =>
      obtain rfl := Except.ok.inj h
      rw [AggregateOf.distribute_results errors a (Bool.eq_false_iff.mpr hfails) hlen]
      rfl

end

end

/-! ### Dispatching -/

namespace AggregateOf

variable {a : Aggregate} {chain : SimulatedChain}

end AggregateOf

end ContractCalls
