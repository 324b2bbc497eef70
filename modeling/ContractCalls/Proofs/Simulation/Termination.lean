import ContractCalls.Proofs.Simulation.Contract

/-!
# Execution ends

How contracts answer requests, as rules that know no bound on how deep batches nest. A request has
an answer by the rules only if the calls that it leads to come to an end, and every request has one,
whatever its calldata are.
-/

namespace ContractCalls

/-- The request for a call in a batch. It is sent by the multicall contract that runs the batch. -/
def BatchCall.request (call : BatchCall) (multicall : Address) : CallRequest :=
  { target := call.target, sender := some multicall, value := call.value, data := call.data }

/-- The values of the calls do not add up to the one that comes with the batch, in the layout with
values. -/
def Batch.Mismatches (b : Batch) (value : Word) : Prop :=
  b.strategy = .aggregate3Value ∧ b.calls.foldl (fun sum call => sum + call.value) 0 ≠ value

/-- The first request is for a call in the batch that the calldata of the second one are. -/
def CallRequest.CalledWithin (inner outer : CallRequest) : Prop :=
  ∃ b, Batch.decode? outer.data = some b ∧ ∃ call ∈ b.calls, inner = call.request outer.target

open CallRequest (CalledWithin)

/-- Batches nest no deeper than their calldata are long. -/
lemma wellFounded_calledWithin : WellFounded CalledWithin := by
  refine Subrelation.wf (r := InvImage (· < ·) fun r : CallRequest => r.data.length) ?_
    (InvImage.wf _ Nat.lt_wfRel.wf)
  rintro inner outer ⟨b, hbatch, call, hcall, rfl⟩
  exact Batch.length_data_lt hbatch call hcall

/-! ### Rules -/

open SimulatedContract (selectorOf?)

mutual

/-- The contracts answer a request. -/
inductive Executes (contracts : Contracts) : CallRequest → Answer → Prop where
  | contract {r : CallRequest} {c : SimulatedContract} {answer : Answer}
      (found : contracts.lookup r.target = some c) (responds : Responds contracts c r answer) :
      Executes contracts r answer
  | usualPlace {r : CallRequest} {answer : Answer} (free : contracts.lookup r.target = none)
      (place : r.target = canonicalMulticall) (batch : ExecutesBatch contracts r answer) :
      Executes contracts r answer
  | nothing {r : CallRequest} (free : contracts.lookup r.target = none)
      (place : r.target ≠ canonicalMulticall) :
      Executes contracts r (.ok [])

/-- A contract answers a request. -/
inductive Responds (contracts : Contracts) : SimulatedContract → CallRequest → Answer → Prop where
  | answering {r : CallRequest} (answer : CallRequest → Answer) :
      Responds contracts (.answering answer) r (answer r)
  | multicall {r : CallRequest} {answer : Answer} (batch : ExecutesBatch contracts r answer) :
      Responds contracts .multicall r answer
  | chosen {r : CallRequest} {answer : Answer} {selector : Selector}
      {c otherwise : SimulatedContract}
      {cases : List (Selector × SimulatedContract)} (chosen : selectorOf? r.data = some selector)
      (responds : Responds contracts c r answer) :
      Responds contracts (.select ((selector, c) :: cases) otherwise) r answer
  | skipped {r : CallRequest} {answer : Answer} {selector : Selector}
      {c otherwise : SimulatedContract}
      {cases : List (Selector × SimulatedContract)} (skipped : selectorOf? r.data ≠ some selector)
      (responds : Responds contracts (.select cases otherwise) r answer) :
      Responds contracts (.select ((selector, c) :: cases) otherwise) r answer
  | otherwise {r : CallRequest} {answer : Answer} {otherwise : SimulatedContract}
      (responds : Responds contracts otherwise r answer) :
      Responds contracts (.select [] otherwise) r answer

/-- A multicall contract answers a request. -/
inductive ExecutesBatch (contracts : Contracts) : CallRequest → Answer → Prop where
  | malformed {r : CallRequest} (malformed : Batch.decode? r.data = none) :
      ExecutesBatch contracts r (.error [])
  | mismatch {r : CallRequest} {b : Batch} (batch : Batch.decode? r.data = some b)
      (mismatch : b.Mismatches r.value) :
      ExecutesBatch contracts r (.error (errorString "Multicall3: value mismatch"))
  | calls {r : CallRequest} {b : Batch} {results : Except Bytes (List (Bool × Bytes))}
      (batch : Batch.decode? r.data = some b) (agree : ¬b.Mismatches r.value)
      (calls : ExecutesCalls contracts r.target b.calls results) :
      ExecutesBatch contracts r (results.map encodeResults)

/-- The multicall contract at an address gets these results from calls, or reverts with these
data. -/
inductive ExecutesCalls (contracts : Contracts) :
    Address → List BatchCall → Except Bytes (List (Bool × Bytes)) → Prop where
  | done {multicall : Address} : ExecutesCalls contracts multicall [] (.ok [])
  | success {multicall : Address} {call : BatchCall} {calls : List BatchCall} {data : Bytes}
      {results : Except Bytes (List (Bool × Bytes))}
      (run : Executes contracts (call.request multicall) (.ok data))
      (rest : ExecutesCalls contracts multicall calls results) :
      ExecutesCalls contracts multicall (call :: calls) (results.map ((true, data) :: ·))
  | allowed {multicall : Address} {call : BatchCall} {calls : List BatchCall} {data : Bytes}
      {results : Except Bytes (List (Bool × Bytes))} (allowed : call.allowFailure = true)
      (run : Executes contracts (call.request multicall) (.error data))
      (rest : ExecutesCalls contracts multicall calls results) :
      ExecutesCalls contracts multicall (call :: calls) (results.map ((false, data) :: ·))
  | failure {multicall : Address} {call : BatchCall} {calls : List BatchCall} {data : Bytes}
      (forbidden : call.allowFailure = false)
      (run : Executes contracts (call.request multicall) (.error data)) :
      ExecutesCalls contracts multicall (call :: calls)
        (.error (errorString "Multicall3: call failed"))

end

/-! ### The rules agree with a run -/

namespace SimulatedContract

variable {batch : CallRequest → Answer} {r : CallRequest} {otherwise : SimulatedContract}

lemma run_select_cons {selector : Selector} {c : SimulatedContract}
    {cases : List (Selector × SimulatedContract)} :
    (select ((selector, c) :: cases) otherwise).run batch r =
      if selectorOf? r.data = some selector then c.run batch r
      else (select cases otherwise).run batch r := by
  rw [run, runCase]
  by_cases h : selectorOf? r.data = some selector
  · rw [if_pos h, if_pos h]
  · rw [if_neg h, if_neg h, run]

lemma run_select_nil : (select [] otherwise).run batch r = otherwise.run batch r := by
  rw [run, runCase]

end SimulatedContract

namespace Contracts

open SimulatedContract

variable {contracts : Contracts}

mutual

/-- A derivation has the answer of the run, whatever depth the run allows for. -/
lemma run_of_executes {r : CallRequest} {answer : Answer} (h : Executes contracts r answer) :
    contracts.run r = answer := by
  rw [run_eq]
  match h with
  | .contract found responds =>
    rw [found]
    exact run_of_responds responds
  | .usualPlace free place batch =>
    rw [free]
    exact (if_pos place).trans (runBatch_of_executesBatch batch)
  | .nothing free place =>
    rw [free]
    exact if_neg place

lemma run_of_responds {c : SimulatedContract} {r : CallRequest} {answer : Answer}
    (h : Responds contracts c r answer) : c.run (runBatch contracts.run) r = answer := by
  match h with
  | .answering answer => rw [SimulatedContract.run]
  | .multicall batch =>
    rw [SimulatedContract.run]
    exact runBatch_of_executesBatch batch
  | .chosen chosen responds =>
    rw [run_select_cons, if_pos chosen]
    exact run_of_responds responds
  | .skipped skipped responds =>
    rw [run_select_cons, if_neg skipped]
    exact run_of_responds responds
  | .otherwise responds =>
    rw [run_select_nil]
    exact run_of_responds responds

lemma runBatch_of_executesBatch {r : CallRequest} {answer : Answer}
    (h : ExecutesBatch contracts r answer) : runBatch contracts.run r = answer := by
  rw [runBatch]
  match h with
  | .malformed malformed => rw [malformed]
  | .mismatch batch mismatch =>
    rw [batch]
    exact if_pos mismatch
  | .calls batch agree calls =>
    rw [batch, ← runBatchCalls_of_executesCalls calls]
    exact if_neg agree

lemma runBatchCalls_of_executesCalls {multicall : Address} {calls : List BatchCall}
    {results : Except Bytes (List (Bool × Bytes))}
    (h : ExecutesCalls contracts multicall calls results) :
    runBatchCalls contracts.run multicall calls = results := by
  match h with
  | .done => rfl
  | .success run rest =>
    have hcall := run_of_executes run
    rw [BatchCall.request] at hcall
    rw [runBatchCalls, hcall, runBatchCalls_of_executesCalls rest]
    rfl
  | .allowed allowed run rest =>
    have hcall := run_of_executes run
    rw [BatchCall.request] at hcall
    rw [runBatchCalls, hcall, runBatchCalls_of_executesCalls rest]
    exact if_pos allowed
  | .failure forbidden run =>
    have hcall := run_of_executes run
    rw [BatchCall.request] at hcall
    rw [runBatchCalls, hcall]
    exact if_neg (Bool.eq_false_iff.mp forbidden)

end

/-! ### Each request has an answer -/

lemma exists_executesCalls {multicall : Address} {calls : List BatchCall}
    (h : ∀ call ∈ calls, ∃ answer, Executes contracts (call.request multicall) answer) :
    ∃ results, ExecutesCalls contracts multicall calls results := by
  induction calls with
  | nil => exact ⟨_, .done⟩
  | cons call calls ih =>
    obtain ⟨⟨answer, hcall⟩, hcalls⟩ := List.forall_mem_cons.mp h
    obtain ⟨results, hresults⟩ := ih hcalls
    cases answer with
    | ok data => exact ⟨_, .success hcall hresults⟩
    | error data =>
      cases hallow : call.allowFailure with
      | true => exact ⟨_, .allowed hallow hcall hresults⟩
      | false => exact ⟨_, .failure hallow hcall⟩

lemma exists_executesBatch {r : CallRequest}
    (h : ∀ inner : CallRequest, inner.CalledWithin r → ∃ answer, Executes contracts inner answer) :
    ∃ answer, ExecutesBatch contracts r answer := by
  cases hbatch : Batch.decode? r.data with
  | none => exact ⟨_, .malformed hbatch⟩
  | some b =>
    by_cases hmismatch : b.Mismatches r.value
    · exact ⟨_, .mismatch hbatch hmismatch⟩
    · have hcalls : ∀ call ∈ b.calls, ∃ answer, Executes contracts (call.request r.target) answer :=
        fun call hcall => h _ ⟨b, hbatch, call, hcall, rfl⟩
      obtain ⟨results, hresults⟩ := exists_executesCalls hcalls
      exact ⟨_, .calls hbatch hmismatch hresults⟩

mutual

/-- A contract passes a request on to smaller contracts only, and so ends at an answer or at the
batch. -/
lemma exists_responds {r : CallRequest} (h : ∃ answer, ExecutesBatch contracts r answer)
    (c : SimulatedContract) : ∃ answer, Responds contracts c r answer := by
  match c with
  | .answering answer => exact ⟨_, .answering answer⟩
  | .multicall =>
    obtain ⟨answer, hanswer⟩ := h
    exact ⟨answer, .multicall hanswer⟩
  | .select cases otherwise => exact exists_responds_select h cases (exists_responds h otherwise)

lemma exists_responds_select {r : CallRequest} (h : ∃ answer, ExecutesBatch contracts r answer)
    (cases : List (Selector × SimulatedContract)) {otherwise : SimulatedContract}
    (hotherwise : ∃ answer, Responds contracts otherwise r answer) :
    ∃ answer, Responds contracts (.select cases otherwise) r answer := by
  match cases with
  | [] =>
    obtain ⟨answer, hanswer⟩ := hotherwise
    exact ⟨answer, .otherwise hanswer⟩
  | (selector, c) :: cases =>
    by_cases hselector : selectorOf? r.data = some selector
    · obtain ⟨answer, hanswer⟩ := exists_responds h c
      exact ⟨answer, .chosen hselector hanswer⟩
    · obtain ⟨answer, hanswer⟩ := exists_responds_select h cases hotherwise
      exact ⟨answer, .skipped hselector hanswer⟩

end

/-- By induction on how deep batches nest, since only the calls in a batch lead to other
requests. -/
lemma exists_executes (contracts : Contracts) (r : CallRequest) :
    ∃ answer, Executes contracts r answer := by
  induction r using wellFounded_calledWithin.induction with
  | _ r ih =>
    have hbatch : ∃ answer, ExecutesBatch contracts r answer := exists_executesBatch ih
    cases hfound : contracts.lookup r.target with
    | some c =>
      obtain ⟨answer, hanswer⟩ := exists_responds hbatch c
      exact ⟨answer, .contract hfound hanswer⟩
    | none =>
      by_cases hplace : r.target = canonicalMulticall
      · obtain ⟨answer, hanswer⟩ := hbatch
        exact ⟨answer, .usualPlace hfound hplace hanswer⟩
      · exact ⟨_, .nothing hfound hplace⟩

/-- Calls in batches have less calldata than the batches, be the offsets in them shared or pointing
back. So there is no infinite chain of requests each of which leads to the next one, and each
request has exactly one answer by the rules, the one that the contracts give. -/
theorem execution_terminates (contracts : Contracts) :
    (∀ calldata b, Batch.decode? calldata = some b →
      ∀ call ∈ b.calls, call.data.length < calldata.length) ∧
    WellFounded CalledWithin ∧ ∀ r answer, Executes contracts r answer ↔
      contracts.run r = answer := by
  refine ⟨fun _ _ => Batch.length_data_lt, wellFounded_calledWithin,
    fun r answer => ⟨run_of_executes, ?_⟩⟩
  rintro rfl
  obtain ⟨answer, hanswer⟩ := exists_executes contracts r
  rwa [run_of_executes hanswer]

/-- A call whose place, data and length are given by words that stand for something else, too. -/
theorem execution_terminates_shared_words :
    let data : Bytes := Bytes.ofNat 32 7
    let calldata : Bytes := Bytes.ofBitVec (Strategy.tryAggregate true).function.selector ++
      (Bytes.ofNat 32 1 ++ Bytes.ofNat 32 0 ++ Bytes.ofNat 32 32 ++ data)
    let r : CallRequest := { target := canonicalMulticall, data := calldata }
    Batch.decode? calldata = some ⟨.tryAggregate true, [⟨0, false, 0, data⟩]⟩ ∧
      data.length < calldata.length ∧ Contracts.run [] r = .ok (encodeResults [(true, [])]) := by
  intro data calldata r
  have hbatch : Batch.decode? calldata = some ⟨.tryAggregate true, [⟨0, false, 0, data⟩]⟩ := by
    rw [Batch.decode?_selector_append]
    decide +kernel
  have hcall : Executes [] (BatchCall.request ⟨0, false, 0, data⟩ canonicalMulticall) (.ok []) :=
    .nothing rfl (by decide)
  have hcalls : ExecutesCalls [] canonicalMulticall [⟨0, false, 0, data⟩] (.ok [(true, [])]) :=
    .success hcall .done
  have hexecutes : Executes [] r (.ok (encodeResults [(true, [])])) :=
    .usualPlace rfl rfl (ExecutesBatch.calls (r := r) hbatch (by simp [Batch.Mismatches]) hcalls)
  obtain ⟨hlength, -, hrun⟩ := execution_terminates []
  exact ⟨hbatch, hlength calldata _ hbatch _ (List.mem_singleton_self _), (hrun r _).mp hexecutes⟩

end Contracts

end ContractCalls
