import ContractCalls.Proofs.Multicall.Renewing
import ContractCalls.Proofs.Multicall.Replacing
import ContractCalls.Proofs.Multicall.Value

/-!
# Values that are set on aggregates

A value that is set on an aggregate has to be the total of its calls, which is looked at where the
aggregate is dispatched itself. As a call of another aggregate it goes by the total of its calls
alone, and what is set on it makes no difference.
-/

namespace ContractCalls

/-! ### Aggregates within without values of their own -/

mutual

/-- The call with no values set on the aggregates in it. A single call keeps its value. -/
def QueuedCall.unsetValues : QueuedCall → QueuedCall
  | .single call => .single call
  | .nested ⟨client, deployment, entries, anyPayable, mixedFailure, encoded, request, options⟩ =>
    .nested ⟨client, deployment, Entry.unsetValues entries, anyPayable, mixedFailure, encoded,
      { request with value := 0 }, options⟩

def Entry.unsetValues : List (Entry QueuedCall) → List (Entry QueuedCall)
  | [] => []
  | ⟨handle, allowFailure, call⟩ :: entries =>
    ⟨handle, allowFailure, call.unsetValues⟩ :: Entry.unsetValues entries

end

namespace AggregateOf

/-- The aggregate with another request, and with no values set on the aggregates within. -/
def unsetTo (request : CallRequest) (a : Aggregate) : Aggregate :=
  { a with entries := Entry.unsetValues a.entries, request }

/-- The aggregate with no values set on the aggregates within. -/
def unsetWithin (a : Aggregate) : Aggregate :=
  a.unsetTo a.request

end AggregateOf

lemma QueuedCall.unsetValues_nested (a : Aggregate) :
    (QueuedCall.nested a).unsetValues = .nested (a.unsetTo { a.request with value := 0 }) := by
  cases a
  rw [QueuedCall.unsetValues]
  rfl

lemma Entry.unsetValues_eq_map (entries : List (Entry QueuedCall)) :
    Entry.unsetValues entries = entries.map (Entry.mapCall QueuedCall.unsetValues) := by
  induction entries with
  | nil => rw [Entry.unsetValues, List.map_nil]
  | cons e entries ih =>
    obtain ⟨handle, allowFailure, call⟩ := e
    rw [Entry.unsetValues, ih, List.map_cons, Entry.mapCall]

lemma AggregateOf.unsetTo_eq_mapCalls (request : CallRequest) (a : Aggregate) :
    a.unsetTo request = a.mapCalls QueuedCall.unsetValues a.client request := by
  rw [unsetTo, mapCalls, Entry.unsetValues_eq_map]

/-- For a batch, an aggregate goes by its calls alone. -/
lemma QueuedCall.isKeptBy_unsetValues (call : QueuedCall) :
    call.IsKeptBy QueuedCall.unsetValues :=
  isKeptBy (f := id) (g := fun request => { request with value := 0 })
    (fun call => by rw [unsetValues])
    (fun a => by rw [unsetValues_nested, AggregateOf.unsetTo_eq_mapCalls, id]) call

mutual

/-- Built anew, the aggregates within have requests of their own anyway. -/
lemma QueuedCall.renewed_unsetValues (call : QueuedCall) :
    call.unsetValues.renewed = call.renewed := by
  match call with
  | .single call => rw [QueuedCall.unsetValues]
  | .nested a =>
    rw [QueuedCall.unsetValues_nested, QueuedCall.renewed, QueuedCall.renewed,
      AggregateOf.renewed_unsetTo _ a]

lemma AggregateOf.renewed_unsetTo (request : CallRequest) (a : Aggregate) :
    (a.unsetTo request).renewed = a.renewed := by
  match a with
  | ⟨_, _, entries, _, _, _, _, _⟩ =>
    rw [AggregateOf.unsetTo, AggregateOf.renewed, AggregateOf.renewed,
      Entry.renewed_unsetValues entries]

lemma Entry.renewed_unsetValues (entries : List (Entry QueuedCall)) :
    Entry.renewed (Entry.unsetValues entries) = Entry.renewed entries := by
  match entries with
  | [] => rw [Entry.unsetValues]
  | ⟨_, _, call⟩ :: entries =>
    rw [Entry.unsetValues, Entry.renewed, Entry.renewed, QueuedCall.renewed_unsetValues call,
      Entry.renewed_unsetValues entries]

end

lemma AggregateOf.fail_unsetTo (err : ContractError) (request : CallRequest) (a : Aggregate) :
    (a.unsetTo request).fail err = a.fail err :=
  fail_congr (renewed_unsetTo request a) err

/-- An answer is distributed in the same way. -/
lemma AggregateOf.distribute_unsetTo (data : Bytes) (request : CallRequest) (a : Aggregate) :
    (a.unsetTo request).distribute data = a.distribute data :=
  distribute_congr (renewed_unsetTo request a) data

lemma Entry.forAggregates_unsetValues (entries : List (Entry QueuedCall)) :
    Entry.ForAggregates (·.request.value = 0) (Entry.unsetValues entries) := by
  match entries with
  | [] =>
    rw [Entry.unsetValues, Entry.ForAggregates]
    trivial
  | ⟨_, _, .single call⟩ :: entries =>
    rw [Entry.unsetValues, Entry.ForAggregates, QueuedCall.unsetValues, QueuedCall.ForAggregates]
    exact ⟨trivial, Entry.forAggregates_unsetValues entries⟩
  | ⟨_, _, .nested ⟨_, _, inner, _, _, _, _, _⟩⟩ :: entries =>
    rw [Entry.unsetValues, Entry.ForAggregates, QueuedCall.unsetValues, QueuedCall.ForAggregates,
      AggregateOf.ForAggregates]
    exact ⟨⟨rfl, Entry.forAggregates_unsetValues inner⟩, Entry.forAggregates_unsetValues entries⟩

/-! ### Dispatching -/

namespace AggregateOf

variable {σ : Type} [Node σ]

lemma prepare_unsetWithin (a : Aggregate) : a.unsetWithin.prepare = a.prepare := by
  obtain ⟨⟨encoded, a'⟩, hencode⟩ := exists_encode a
  have hkept : ∀ e ∈ a.entries, e.call.IsKeptBy QueuedCall.unsetValues :=
    fun e _ => e.call.isKeptBy_unsetValues
  rw [prepare, prepare, unsetWithin, unsetTo_eq_mapCalls, encode_mapCalls hkept, hencode]
  simp only [mapCalls, List.isEmpty_map]
  rfl

/-- What is set on the aggregates within makes no difference to a simulation. -/
lemma call_unsetWithin (a : Aggregate) :
    (a.unsetWithin.call : StateM σ (Dispatched AggregateOutput)) = a.call := by
  rw [call, call, prepare_unsetWithin]
  simp only [unsetWithin, fail_unsetTo, distribute_unsetTo]
  rfl

/-- Nor does it to a transaction. -/
lemma send_unsetWithin (a : Aggregate) (signer : Signer) :
    (a.unsetWithin.send signer : StateM σ (Dispatched (PendingInclusion Receipt))) =
      a.send signer := by
  rw [send, send, prepare_unsetWithin]
  simp only [unsetWithin, fail_unsetTo, distribute_unsetTo]
  rfl

/-- No aggregate within has a value set any more. -/
lemma forAggregates_unsetWithin (a : Aggregate) :
    Entry.ForAggregates (·.request.value = 0) a.unsetWithin.entries :=
  Entry.forAggregates_unsetValues a.entries

/-- Whether an aggregate is dispatched depends on its calls and on the value that is set on it. A
value other than their total is refused before anything is asked. Else the calls are dispatched with
their total, which is the sum of the values in them if that fits. What is set on the aggregates
within is never looked at. -/
theorem dispatching_by_own_value [LawfulNode σ] (signer : Signer) {a : Aggregate} (ha : a.IsBuilt) :
    Records (a.call : StateM (Recorded σ) (Dispatched AggregateOutput))
      (a.call : StateM σ (Dispatched AggregateOutput))
      (fun log called => a.Dispatching signer log called.result) ∧
    Records (a.send signer : StateM (Recorded σ) (Dispatched (PendingInclusion Receipt)))
      (a.send signer : StateM σ (Dispatched (PendingInclusion Receipt)))
      (fun log sent => a.Dispatching signer log sent.result) ∧
    (a.leafSum < 2 ^ 256 → a.totalValue.toNat = a.leafSum) ∧
    Entry.ForAggregates (·.request.value = 0) a.unsetWithin.entries ∧
    (a.unsetWithin.call : StateM σ (Dispatched AggregateOutput)) = a.call ∧
    (a.unsetWithin.send signer : StateM σ (Dispatched (PendingInclusion Receipt))) =
      a.send signer :=
  ⟨records_call ha.isSound signer, records_send_dispatching ha.isSound signer,
    fun hsum => a.toNat_totalValue.trans (capped_of_lt hsum), forAggregates_unsetWithin a,
    call_unsetWithin a, send_unsetWithin a signer⟩

/-- A value that is set on the aggregate itself and is not the total is refused. -/
theorem dispatching_by_own_value_refused :
    let client : Client := { chainId := 1, config := {}, errors := {} }
    let signer : Signer := .refusing 1 "no key"
    let paying := { client.rawCall 7 [] (fun _ => .ok []) with request.value := 3 }
    let within := (empty client { address := canonicalMulticall }).add (.single paying) false 0
    let a : Aggregate :=
      { (empty client { address := canonicalMulticall }).add (.nested within) false 1 with
        request := { client.newRequest canonicalMulticall [] with value := 7 } }
    a.IsBuilt ∧
      let called := (a.call : StateM (Recorded SimulatedChain) _).run ⟨{}, []⟩
      let sent := (a.send signer : StateM (Recorded SimulatedChain) _).run ⟨{}, []⟩
      called.2.exchanges = [] ∧ called.1.result = .error (.valueMismatch 7 3) ∧
        sent.2.exchanges = [] ∧ sent.1.result = .error (.valueMismatch 7 3) := by
  intro client signer paying within a
  have hwithin : within.IsBuilt := .addCall (.empty _ _) _ _ _
  have hbuilt : a.IsBuilt := .configure (.addAggregate (.empty _ _) hwithin _ _) _ _
  have hentries : a.entries ≠ [] := by simp [a, add]
  have htotal : a.totalValue = 3 := by
    simp only [a, within, paying, add, empty, totalValue, Entry.sumValues, QueuedCall.value,
      List.nil_append]
    decide
  obtain ⟨hcall, hsend, -⟩ := dispatching_by_own_value (σ := SimulatedChain) signer hbuilt
  obtain ⟨log, hcalled, hlog⟩ := hcall ⟨{}, []⟩
  obtain ⟨log', hsent, hlog'⟩ := hsend ⟨{}, []⟩
  refine ⟨hbuilt, ?_⟩
  have hwrong : a.HasWrongValue := by
    rw [HasWrongValue, htotal]
    decide
  obtain ⟨rfl, hresult⟩ := hlog.eq_valueMismatch hentries hwrong
  obtain ⟨rfl, hresult'⟩ := hlog'.eq_valueMismatch hentries hwrong
  rw [htotal] at hresult hresult'
  rw [hcalled, hsent]
  exact ⟨rfl, hresult, rfl, hresult'⟩

/-- A value that is set on an aggregate within, where it is not the total, goes unnoticed. -/
theorem exists_call_of_wrong_value_within :
    let client : Client := { chainId := 1, config := {}, errors := {} }
    let single := client.rawCall 7 [] fun _ => .ok []
    let within : Aggregate :=
      { (empty client { address := canonicalMulticall }).add (.single single) false 0 with
        request := { client.newRequest canonicalMulticall [] with value := 5 } }
    let a := (empty client { address := canonicalMulticall }).add (.nested within) false 1
    let chain : SimulatedChain :=
      { contracts := [(canonicalMulticall, .returningResults [(true, [])])] }
    let called := (a.call : StateM (Recorded SimulatedChain) _).run ⟨chain, []⟩
    a.IsBuilt ∧ within.HasWrongValue ∧ called.2.exchanges ≠ [] ∧
      ∃ output, called.1.result = .ok output := by
  intro client single within a chain
  have hwithin : within.IsBuilt := .configure (.addCall (.empty _ _) _ _ _) _ _
  have hbuilt : a.IsBuilt := .addAggregate (.empty _ _) hwithin _ _
  have hentries : a.entries ≠ [] := by simp [a, add]
  have htotal : within.totalValue = 0 := by
    simp only [within, single, add, empty, totalValue, Entry.sumValues, QueuedCall.value,
      List.nil_append]
    decide
  have hwrong : within.HasWrongValue := by
    rw [HasWrongValue, htotal]
    decide
  have hresult : ∃ output,
      ((a.call : StateM (Recorded SimulatedChain) _).run ⟨chain, []⟩).1.result = .ok output :=
    Except.exists_eq_ok_of_isSome (by decide +kernel)
  obtain ⟨log, hrun, hlog⟩ := records_call hbuilt.isSound (.refusing 1 "no key") ⟨chain, []⟩
  obtain ⟨hasked, -⟩ := hlog.takes_totalRequest hentries fun hwrong => hwrong.1 rfl
  refine ⟨hbuilt, hwrong, ?_, hresult⟩
  rw [hrun]
  exact hasked

end AggregateOf

end ContractCalls
