import ContractCalls.Proofs.Multicall.Encoding
import ContractCalls.Proofs.Multicall.Handle

/-!
# Handles of aggregates

Each call that is added to an aggregate gets a new handle, so that the handles of all aggregates,
also of those within others, are different. They wait until their aggregate is dispatched.
-/

namespace ContractCalls

/-! ### The handles of an aggregate -/

/-- The handles of the calls within a call. -/
def QueuedCall.handlesWithin : QueuedCall → List Nat
  | .single _ => []
  | .nested a => a.handles

lemma Entry.handles_cons (handle : Nat) (allowFailure : Bool) (call : QueuedCall)
    (entries : List (Entry QueuedCall)) :
    Entry.handles (⟨handle, allowFailure, call⟩ :: entries) =
      call.handlesWithin ++ handle :: Entry.handles entries := by
  cases call <;> simp [Entry.handles, QueuedCall.handlesWithin]

lemma Entry.handles_append (entries others : List (Entry QueuedCall)) :
    Entry.handles (entries ++ others) = Entry.handles entries ++ Entry.handles others := by
  induction entries with
  | nil => simp [Entry.handles]
  | cons e entries ih =>
    obtain ⟨handle, allowFailure, call⟩ := e
    rw [List.cons_append, Entry.handles_cons, Entry.handles_cons, ih, List.append_assoc,
      List.cons_append]

lemma AggregateOf.handles_eq (a : Aggregate) : a.handles = Entry.handles a.entries := by
  cases a
  rw [handles]

lemma AggregateOf.handles_empty (client : Client) (deployment : Deployment) :
    (AggregateOf.empty client deployment).handles = [] := by
  rw [handles_eq, empty, Entry.handles]

lemma AggregateOf.handles_add (a : Aggregate) (call : QueuedCall) (allowFailure : Bool)
    (handle : Nat) :
    (a.add call allowFailure handle).handles = a.handles ++ (call.handlesWithin ++ [handle]) := by
  rw [handles_eq, handles_eq, add, Entry.handles_append, Entry.handles_cons, Entry.handles]

mutual

/-- Encoding leaves the handles as they are. -/
lemma QueuedCall.handlesWithin_calldata {c c' : QueuedCall} {data : Bytes}
    (h : c.calldata = .ok (data, c')) : c'.handlesWithin = c.handlesWithin := by
  match c with
  | .single call =>
    obtain ⟨-, rfl⟩ := QueuedCall.calldata_single h
    rfl
  | .nested a =>
    obtain ⟨encoded, a', hencode, -, rfl⟩ := QueuedCall.calldata_nested h
    rw [QueuedCall.handlesWithin, QueuedCall.handlesWithin]
    exact AggregateOf.handles_encode hencode

lemma AggregateOf.handles_encode {a a' : Aggregate} {encoded : EncodedBatch}
    (h : a.encode = .ok (encoded, a')) : a'.handles = a.handles := by
  match a with
  | ⟨client, deployment, entries, anyPayable, mixedFailure, kept, request, options⟩ =>
    rcases AggregateOf.encode_cases h with ⟨-, -, rfl⟩ | ⟨calls, entries', hbatch, -, rfl⟩
    · rfl
    · rw [AggregateOf.handles, AggregateOf.handles]
      exact Entry.handles_batchCalls hbatch

lemma Entry.handles_batchCalls {entries entries' : List (Entry QueuedCall)} {calls : List BatchCall}
    (h : Entry.batchCalls entries = .ok (calls, entries')) :
    Entry.handles entries' = Entry.handles entries := by
  match entries with
  | [] =>
    obtain ⟨-, rfl⟩ := Entry.batchCalls_nil h
    rfl
  | ⟨handle, allowFailure, call⟩ :: entries =>
    obtain ⟨data, call', rest, rest', hcall, hrest, -, rfl⟩ := Entry.batchCalls_cons h
    rw [Entry.handles_cons, Entry.handles_cons, QueuedCall.handlesWithin_calldata hcall,
      Entry.handles_batchCalls hrest]

end

/-! ### Handles that wait -/

/-- The handles of aggregates that are being built are different, and all of them wait. -/
structure Handles.Await (hs : Handles) (as : List Aggregate) : Prop where
  nodup : (as.flatMap AggregateOf.handles).Nodup
  waiting : ∀ h ∈ as.flatMap AggregateOf.handles, hs.state h = .waiting

namespace Handles.Await

variable {hs : Handles} {a b : Aggregate} {as bs : List Aggregate}

lemma nodup_handles (h : hs.Await (a :: as)) : a.handles.Nodup :=
  (List.nodup_append.mp (List.flatMap_cons ▸ h.nodup)).1

lemma waiting_handles (h : hs.Await (a :: as)) : ∀ i ∈ a.handles, hs.state i = .waiting :=
  fun i hi => h.waiting i (List.mem_flatMap.mpr ⟨a, List.mem_cons_self, hi⟩)

/-- Settlements for all handles of an aggregate take effect. -/
lemma state_settleAll (h : hs.Await (a :: as)) {settlements : List Settlement}
    (hhandles : settlements.map (·.handle) = a.handles) {t : Settlement} (ht : t ∈ settlements) :
    (hs.settleAll settlements).state t.handle = .settled t.outcome := by
  refine Handles.state_settleAll (hhandles.symm ▸ h.nodup_handles) ?_ ht
  intro t ht
  exact h.waiting_handles _ (hhandles ▸ List.mem_map_of_mem ht)

/-- The handles wait whatever aggregates they belong to. -/
lemma of_perm (h : hs.Await as)
    (hperm : (bs.flatMap AggregateOf.handles).Perm (as.flatMap AggregateOf.handles)) :
    hs.Await bs :=
  ⟨hperm.nodup_iff.mpr h.nodup, fun i hi => h.waiting i (hperm.mem_iff.mp hi)⟩

/-- A new handle waits beside those that wait already. -/
lemma of_perm_add (h : hs.Await as) (hperm : (bs.flatMap AggregateOf.handles).Perm
    (hs.add.2 :: as.flatMap AggregateOf.handles)) : hs.add.1.Await bs := by
  have hold : ∀ i ∈ as.flatMap AggregateOf.handles, hs.add.1.state i = .waiting ∧ i ≠ hs.add.2 :=
    fun i hi => state_add_of_waiting (h.waiting i hi)
  refine ⟨hperm.nodup_iff.mpr (List.nodup_cons.mpr ⟨fun hmem => (hold _ hmem).2 rfl, h.nodup⟩), ?_⟩
  intro i hi
  rcases List.mem_cons.mp (hperm.mem_iff.mp hi) with rfl | hi
  · exact state_add
  · exact (hold i hi).1

lemma empty (h : hs.Await as) (client : Client) (deployment : Deployment) :
    hs.Await (.empty client deployment :: as) :=
  h.of_perm (by rw [List.flatMap_cons, AggregateOf.handles_empty, List.nil_append])

lemma addCall (h : hs.Await (a :: as)) (call : ReadCall) (allowFailure : Bool) :
    hs.add.1.Await (a.add (.single call) allowFailure hs.add.2 :: as) := by
  refine h.of_perm_add ?_
  rw [List.flatMap_cons, List.flatMap_cons, AggregateOf.handles_add, QueuedCall.handlesWithin,
    List.nil_append, List.append_assoc]
  exact List.perm_middle

/-- An aggregate takes its handles along into another one. -/
lemma addAggregate (h : hs.Await (a :: b :: as)) (allowFailure : Bool) :
    hs.add.1.Await (a.add (.nested b) allowFailure hs.add.2 :: as) := by
  refine h.of_perm_add ?_
  rw [List.flatMap_cons, List.flatMap_cons, List.flatMap_cons, AggregateOf.handles_add,
    QueuedCall.handlesWithin, ← List.append_assoc, ← List.append_assoc, List.append_assoc]
  exact List.perm_middle

lemma encode (h : hs.Await (a :: as)) {encoded : EncodedBatch}
    (hencode : a.encode = .ok (encoded, b)) : hs.Await (b :: as) :=
  h.of_perm (by rw [List.flatMap_cons, List.flatMap_cons, AggregateOf.handles_encode hencode])

end Handles.Await

end ContractCalls
