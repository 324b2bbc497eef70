import ContractCalls.Proofs.Multicall.Batch
import ContractCalls.Simulation.Contract

/-!
# Running contracts

Each call within a batch has less calldata than the batch. So the bound on the nesting of batches is
never reached, and the contracts answer as if there were none.
-/

namespace ContractCalls

/-! ### The calls within calldata -/

open AbiValue in
lemma BatchCall.length_data_of_ofValue? {s : Strategy} {v : AbiValue} {call : BatchCall} {n : Nat}
    (h : ofValue? s v = some call) (hv : v.IsWithin n) : call.data.length ≤ n := by
  rw [ofValue?.eq_def] at h
  split at h
  · obtain rfl := Option.some.inj h
    simp only [IsWithin, AreWithin] at hv
    exact hv.2.2.2.1
  · obtain rfl := Option.some.inj h
    simp only [IsWithin, AreWithin] at hv
    exact hv.2.2.1
  · obtain rfl := Option.some.inj h
    simp only [IsWithin, AreWithin] at hv
    exact hv.2.1
  · simp at h

namespace Batch

lemma length_data_of_ofArgs? {s : Strategy} {args : List AbiValue} {b : Batch} {n : Nat}
    (h : ofArgs? s args = some b) (hargs : AbiValue.AreWithin n args) :
    ∀ call ∈ b.calls, call.data.length ≤ n := by
  have hcalls : ∃ s' values, AbiValue.array values ∈ args ∧
      values.mapM (BatchCall.ofValue? s') = some b.calls := by
    rw [ofArgs?.eq_def] at h
    split at h
    · obtain ⟨calls, hcalls, h⟩ := Option.bind_eq_some_iff.mp h
      obtain rfl := Option.some.inj h
      exact ⟨_, _, by simp, hcalls⟩
    · simp at h
    · obtain ⟨calls, hcalls, h⟩ := Option.bind_eq_some_iff.mp h
      obtain rfl := Option.some.inj h
      exact ⟨_, _, by simp, hcalls⟩
    · simp at h
  obtain ⟨s', values, hmem, hcalls⟩ := hcalls
  intro call hcall
  obtain ⟨v, hv, hvcall⟩ := List.exists_of_mapM_eq_some hcalls call hcall
  have harray := AbiValue.areWithin_iff.mp hargs _ hmem
  rw [AbiValue.IsWithin] at harray
  exact BatchCall.length_data_of_ofValue? hvcall (AbiValue.areWithin_iff.mp harray.2 v hv)

/-- Each call of a batch has less calldata than the batch, well-formed or not. -/
theorem length_data_lt {calldata : Bytes} {b : Batch} (h : decode? calldata = some b) :
    ∀ call ∈ b.calls, call.data.length < calldata.length := by
  rw [decode?] at h
  obtain ⟨strategy, -, h⟩ := Option.bind_eq_some_iff.mp h
  obtain ⟨args, hargs, h⟩ := Option.bind_eq_some_iff.mp h
  have hinput : strategy.function.decodeInput calldata = .ok args := by
    cases hresult : strategy.function.decodeInput calldata with
    | error err => simp [hresult, Except.toOption] at hargs
    | ok found => simpa [hresult, Except.toOption] using hargs
  rw [AbiFunction.decodeInput] at hinput
  split at hinput
  · simp at hinput
  · next hlength =>
    have hwithin := Abi.areWithin_of_decode (Except.ite_error_eq_ok_iff.mp hinput).2
    intro call hcall
    have hle := length_data_of_ofArgs? h hwithin call hcall
    rw [List.length_drop] at hle
    omega

end Batch

/-! ### Runs that agree -/

namespace SimulatedContract

mutual

/-- A contract runs batches for the request that it answers only. -/
lemma run_congr {batch batch' : CallRequest → Answer} {r : CallRequest} (h : batch r = batch' r)
    (contract : SimulatedContract) : contract.run batch r = contract.run batch' r := by
  match contract with
  | .answering answer => rw [run, run]
  | .multicall => rw [run, run, h]
  | .select cases otherwise =>
    rw [run, run, runCase_congr h cases]
    split
    · rfl
    · exact run_congr h otherwise

lemma runCase_congr {batch batch' : CallRequest → Answer} {r : CallRequest} (h : batch r = batch' r)
    (cases : List (Selector × SimulatedContract)) :
    runCase batch r cases = runCase batch' r cases := by
  match cases with
  | [] => rw [runCase, runCase]
  | (selector, contract) :: cases =>
    rw [runCase, runCase, run_congr h contract, runCase_congr h cases]

end

lemma runBatchCalls_congr {run run' : CallRequest → Answer} {sender : Address}
    {calls : List BatchCall}
    (h : ∀ call ∈ calls, ∀ r : CallRequest, r.data = call.data → run r = run' r) :
    runBatchCalls run sender calls = runBatchCalls run' sender calls := by
  induction calls with
  | nil => rfl
  | cons call calls ih =>
    rw [List.forall_mem_cons] at h
    obtain ⟨hcall, hcalls⟩ := h
    rw [runBatchCalls, runBatchCalls, hcall _ rfl, ih hcalls]

/-- A batch runs nothing with as much calldata as it has itself. -/
lemma runBatch_congr {run run' : CallRequest → Answer} {r : CallRequest}
    (h : ∀ r' : CallRequest, r'.data.length < r.data.length → run r' = run' r') :
    runBatch run r = runBatch run' r := by
  rw [runBatch, runBatch]
  cases hbatch : Batch.decode? r.data with
  | none => rfl
  | some b =>
    have hcalls : runBatchCalls run r.target b.calls = runBatchCalls run' r.target b.calls := by
      refine runBatchCalls_congr fun call hcall r' hr' => h r' ?_
      rw [hr']
      exact Batch.length_data_lt hbatch call hcall
    simp only [hcalls]

end SimulatedContract

namespace Contracts

open SimulatedContract

/-- Any depth beyond the length of the calldata is enough. -/
lemma runWithin_eq (contracts : Contracts) {m n : Nat} {r : CallRequest} (hm : r.data.length < m)
    (hn : r.data.length < n) : contracts.runWithin m r = contracts.runWithin n r := by
  induction m generalizing n r with
  | zero => simp at hm
  | succ m ih =>
    obtain ⟨n, rfl⟩ := Nat.exists_eq_succ_of_ne_zero (Nat.ne_zero_of_lt hn)
    -- only the calls within a batch meet the smaller depths
    have hbatch : runBatch (contracts.runWithin m) r = runBatch (contracts.runWithin n) r :=
      runBatch_congr fun r' hr' => ih (by omega) (by omega)
    rw [runWithin, runWithin]
    cases contracts.lookup r.target with
    | some contract => exact run_congr hbatch contract
    | none => simp only [hbatch]

/-- The contracts answer a request with answers of their own to the calls in batches. -/
theorem run_eq (contracts : Contracts) (r : CallRequest) :
    contracts.run r =
      match contracts.lookup r.target with
      | some contract => contract.run (runBatch contracts.run) r
      | none => if r.target = canonicalMulticall then runBatch contracts.run r else .ok [] := by
  have hbatch : runBatch (contracts.runWithin r.data.length) r = runBatch contracts.run r :=
    runBatch_congr fun r' hr' => contracts.runWithin_eq hr' (Nat.lt_succ_self _)
  rw [run, runWithin]
  cases contracts.lookup r.target with
  | some contract => exact run_congr hbatch contract
  | none => simp only [hbatch]

end Contracts

end ContractCalls
