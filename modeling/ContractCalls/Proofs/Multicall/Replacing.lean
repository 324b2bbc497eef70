import ContractCalls.Proofs.Multicall.Encoding

/-!
# Calls in the place of others

A batch says of a call where it goes, what it pays and its calldata. A change of calls that leaves
these alone leaves the encoding of their aggregate alone.
-/

namespace ContractCalls

/-- Induction over the calls within calls. -/
@[elab_as_elim]
theorem QueuedCall.induction {p : QueuedCall → Prop} (single : ∀ call, p (.single call))
    (nested : ∀ a : Aggregate, (∀ e ∈ a.entries, p e.call) → p (.nested a)) (call : QueuedCall) :
    p call := by
  match call with
  | .single call => exact single call
  | .nested ⟨client, deployment, entries, anyPayable, mixedFailure, encoded, request, options⟩ =>
    exact nested _ fun e he => QueuedCall.induction single nested e.call
decreasing_by
  have hlt := List.sizeOf_lt_of_mem he
  obtain ⟨handle, allowFailure, call⟩ := e
  simp only [QueuedCall.nested.sizeOf_spec, AggregateOf.mk.sizeOf_spec,
    Entry.mk.sizeOf_spec] at hlt ⊢
  omega

variable {φ : QueuedCall → QueuedCall}

/-- The entry with another call. -/
def Entry.mapCall (φ : QueuedCall → QueuedCall) (e : Entry QueuedCall) : Entry QueuedCall :=
  { e with call := φ e.call }

/-- The aggregate with other calls, dispatched by another client and with another request. -/
def AggregateOf.mapCalls (φ : QueuedCall → QueuedCall) (client : Client) (request : CallRequest)
    (a : Aggregate) : Aggregate :=
  { a with client, entries := a.entries.map (Entry.mapCall φ), request }

/-- In a batch the changed call is the same, and it does not matter whether it is changed before or
after its calldata are kept. -/
structure QueuedCall.IsKeptBy (φ : QueuedCall → QueuedCall) (call : QueuedCall) : Prop where
  target_eq : (φ call).target = call.target
  value_eq : (φ call).value = call.value
  calldata_eq : (φ call).calldata = call.calldata.map (Prod.map id φ)

lemma Entry.sumValues_mapCall {entries : List (Entry QueuedCall)}
    (h : ∀ e ∈ entries, e.call.IsKeptBy φ) (sum : Word) :
    Entry.sumValues sum (entries.map (Entry.mapCall φ)) = Entry.sumValues sum entries := by
  induction entries generalizing sum with
  | nil => rw [List.map_nil]
  | cons e entries ih =>
    obtain ⟨he, hentries⟩ := List.forall_mem_cons.mp h
    obtain ⟨handle, allowFailure, call⟩ := e
    rw [List.map_cons, Entry.mapCall, Entry.sumValues, Entry.sumValues, he.value_eq, ih hentries]

lemma Entry.batchCalls_mapCall {entries : List (Entry QueuedCall)}
    (h : ∀ e ∈ entries, e.call.IsKeptBy φ) :
    Entry.batchCalls (entries.map (Entry.mapCall φ)) =
      (Entry.batchCalls entries).map (Prod.map id (List.map (Entry.mapCall φ))) := by
  induction entries with
  | nil =>
    rw [List.map_nil, Entry.batchCalls]
    rfl
  | cons e entries ih =>
    obtain ⟨he, hentries⟩ := List.forall_mem_cons.mp h
    obtain ⟨handle, allowFailure, call⟩ := e
    obtain ⟨⟨data, call'⟩, hcall⟩ := call.exists_calldata
    obtain ⟨⟨calls, entries'⟩, hbatch⟩ := Entry.exists_batchCalls entries
    rw [List.map_cons, Entry.mapCall, Entry.batchCalls, Entry.batchCalls, he.calldata_eq,
      ih hentries, he.target_eq, he.value_eq, hcall, hbatch]
    rfl

namespace AggregateOf

variable {a a' : Aggregate} {encoded : EncodedBatch}

lemma totalValue_mapCalls (h : ∀ e ∈ a.entries, e.call.IsKeptBy φ) (client : Client)
    (request : CallRequest) : (a.mapCalls φ client request).totalValue = a.totalValue := by
  cases a
  rw [mapCalls, totalValue, totalValue]
  exact Entry.sumValues_mapCall h 0

lemma strategy_mapCalls (φ : QueuedCall → QueuedCall) (client : Client) (request : CallRequest)
    (a : Aggregate) : (a.mapCalls φ client request).strategy = a.strategy := by
  rw [strategy, strategy, firstMayFail, firstMayFail, mapCalls, List.head?_map, Option.any_map]
  rfl

/-- A batch that is kept stays, and a new one is the same. -/
lemma encode_mapCalls (h : ∀ e ∈ a.entries, e.call.IsKeptBy φ) (client : Client)
    (request : CallRequest) :
    (a.mapCalls φ client request).encode =
      a.encode.map (Prod.map id (mapCalls φ client request)) := by
  have hstrategy := strategy_mapCalls φ client request a
  have htotal := totalValue_mapCalls h client request
  obtain ⟨client', deployment, entries, anyPayable, mixedFailure, kept, request', options⟩ := a
  rw [mapCalls] at hstrategy htotal ⊢
  rw [encode, encode, List.length_map]
  cases kept.filter (·.count == entries.length) with
  | some encoded => rfl
  | none =>
    obtain ⟨⟨calls, entries'⟩, hbatch⟩ := Entry.exists_batchCalls entries
    rw [Entry.batchCalls_mapCall h, hbatch]
    simp only [hstrategy, htotal, Except.map, Prod.map, id, bind, Except.bind, Batch.encode_eq,
      List.length_map]
    rfl

/-- Encoding changes nothing but what is kept. -/
lemma client_encode (h : a.encode = .ok (encoded, a')) : a'.client = a.client := by
  rcases encode_cases h with ⟨-, -, rfl⟩ | ⟨calls, entries, -, -, rfl⟩
  · rfl
  · rfl

lemma request_encode (h : a.encode = .ok (encoded, a')) : a'.request = a.request := by
  rcases encode_cases h with ⟨-, -, rfl⟩ | ⟨calls, entries, -, -, rfl⟩
  · rfl
  · rfl

/-- A change of the aggregates within, with the client and the request of each changed by `f` and
`g`, is the same for a batch if it is so for their calls. -/
lemma isKeptBy_nested {f : Client → Client} {g : CallRequest → CallRequest}
    (hφ : ∀ a : Aggregate, φ (.nested a) = .nested (a.mapCalls φ (f a.client) (g a.request)))
    (h : ∀ e ∈ a.entries, e.call.IsKeptBy φ) : (QueuedCall.nested a).IsKeptBy φ where
  target_eq := by
    rw [hφ]
    rfl
  value_eq := by rw [hφ, QueuedCall.value, QueuedCall.value, totalValue_mapCalls h]
  calldata_eq := by
    obtain ⟨⟨encoded, a'⟩, hencode⟩ := exists_encode a
    rw [hφ, QueuedCall.calldata, QueuedCall.calldata, encode_mapCalls h, hencode]
    refine congrArg (fun call => Except.ok (encoded.calldata, call)) ?_
    rw [hφ, client_encode hencode, request_encode hencode]

end AggregateOf

/-- If a change leaves single calls alone, and goes on into the aggregates within, it is the same
for batches. -/
theorem QueuedCall.isKeptBy {f : Client → Client} {g : CallRequest → CallRequest}
    (hsingle : ∀ call, φ (.single call) = .single call)
    (hnested : ∀ a : Aggregate,
      φ (.nested a) = .nested (a.mapCalls φ (f a.client) (g a.request)))
    (call : QueuedCall) : call.IsKeptBy φ := by
  induction call using QueuedCall.induction with
  | single call =>
    refine ⟨by rw [hsingle], by rw [hsingle], ?_⟩
    rw [hsingle, QueuedCall.calldata, Except.map, Prod.map, hsingle]
    rfl
  | nested a ih => exact AggregateOf.isKeptBy_nested hnested ih

end ContractCalls
