import ContractCalls.Proofs.Multicall.Adding
import ContractCalls.Proofs.Multicall.Replacing
import ContractCalls.Proofs.Multicall.Taking

/-!
# Errors that are registered later

Clients of the same origin share the custom errors they know, so that an error that is registered
later is known to the aggregates that are there already. All operations on aggregates commute with
this. An aggregate that has come to know an error could thus have been built with it known from the
start, and what holds of all aggregates that can be built holds of it as well.
-/

namespace ContractCalls

variable (errors : ErrorRegistry)

lemma QueuedCall.knowing_nested (a : Aggregate) :
    (QueuedCall.nested a).knowing errors = .nested (a.knowing errors) := by
  rw [QueuedCall.knowing]

lemma Entry.knowing_eq_map (entries : List (Entry QueuedCall)) :
    Entry.knowing errors entries = entries.map (Entry.mapCall (QueuedCall.knowing errors)) := by
  induction entries with
  | nil => rw [Entry.knowing, List.map_nil]
  | cons e entries ih =>
    obtain ⟨handle, allowFailure, call⟩ := e
    rw [Entry.knowing, ih, List.map_cons, Entry.mapCall]

lemma AggregateOf.knowing_eq_mapCalls (a : Aggregate) :
    a.knowing errors =
      a.mapCalls (QueuedCall.knowing errors) { a.client with errors := errors } a.request := by
  cases a
  rw [knowing, mapCalls, Entry.knowing_eq_map]

/-- No batch depends on the errors that are known. -/
lemma QueuedCall.isKeptBy_knowing (call : QueuedCall) :
    call.IsKeptBy (QueuedCall.knowing errors) :=
  isKeptBy (f := fun client => { client with errors := errors }) (g := id)
    (fun call => by rw [knowing])
    (fun a => by rw [knowing_nested, AggregateOf.knowing_eq_mapCalls, id]) call

/-! ### Building -/

namespace AggregateOf

lemma knowing_empty (client : Client) (deployment : Deployment) :
    (empty client deployment).knowing errors =
      empty { client with errors := errors } deployment := by
  rw [knowing_eq_mapCalls]
  rfl

lemma knowing_add (a : Aggregate) (call : QueuedCall) (allowFailure : Bool) (handle : Nat) :
    (a.add call allowFailure handle).knowing errors =
      (a.knowing errors).add (call.knowing errors) allowFailure handle := by
  rw [knowing_eq_mapCalls, knowing_eq_mapCalls, add, add, mapCalls, mapCalls,
    (call.isKeptBy_knowing errors).value_eq]
  simp only [List.map_append, List.head?_map, Option.any_map]
  rfl

lemma encode_knowing {a a' : Aggregate} {encoded : EncodedBatch}
    (h : a.encode = .ok (encoded, a')) :
    (a.knowing errors).encode = .ok (encoded, a'.knowing errors) := by
  rw [knowing_eq_mapCalls, encode_mapCalls fun e _ => e.call.isKeptBy_knowing errors, h,
    knowing_eq_mapCalls, client_encode h, request_encode h]
  rfl

/-- What is registered later could have been registered before. -/
theorem IsBuilt.knowing {a : Aggregate} (h : a.IsBuilt) : (a.knowing errors).IsBuilt := by
  induction h with
  | empty client deployment =>
    rw [knowing_empty]
    exact .empty _ deployment
  | addCall _ call allowFailure handle ih =>
    rw [knowing_add, QueuedCall.knowing]
    exact ih.addCall call allowFailure handle
  | addAggregate _ _ allowFailure handle ih ihb =>
    rw [knowing_add, QueuedCall.knowing]
    exact ih.addAggregate ihb allowFailure handle
  | encode _ hencode ih => exact ih.encode (encode_knowing errors hencode)
  | withInjectedCode _ ih =>
    rw [knowing_eq_mapCalls] at ih ⊢
    exact ih.withInjectedCode
  | configure _ request options ih =>
    rw [knowing_eq_mapCalls] at ih ⊢
    exact ih.configure request options

/-- The calls that were added know of it too. -/
theorem IsBuiltBy.knowing {added : List (Entry QueuedCall)} {a : Aggregate}
    (h : IsBuiltBy added a) : IsBuiltBy (Entry.knowing errors added) (a.knowing errors) := by
  rw [Entry.knowing_eq_map]
  induction h with
  | empty client deployment =>
    rw [knowing_empty]
    exact .empty _ deployment
  | addCall _ call allowFailure handle ih =>
    rw [knowing_add, List.map_append, List.map_singleton, Entry.mapCall, QueuedCall.knowing]
    exact ih.addCall call allowFailure handle
  | addAggregate _ hb allowFailure handle ih =>
    rw [knowing_add, List.map_append, List.map_singleton, Entry.mapCall, QueuedCall.knowing]
    exact ih.addAggregate (hb.knowing errors) allowFailure handle
  | encode _ hencode ih => exact ih.encode (encode_knowing errors hencode)
  | withInjectedCode _ ih =>
    rw [knowing_eq_mapCalls] at ih ⊢
    exact ih.withInjectedCode
  | configure _ request options ih =>
    rw [knowing_eq_mapCalls] at ih ⊢
    exact ih.configure request options

end AggregateOf

/-! ### Handles -/

mutual

lemma AggregateOf.handles_knowing (a : Aggregate) : (a.knowing errors).handles = a.handles := by
  match a with
  | ⟨_, _, entries, _, _, _, _, _⟩ =>
    rw [AggregateOf.knowing, AggregateOf.handles, AggregateOf.handles]
    exact Entry.handles_knowing entries

lemma Entry.handles_knowing (entries : List (Entry QueuedCall)) :
    Entry.handles (Entry.knowing errors entries) = Entry.handles entries := by
  match entries with
  | [] => rw [Entry.knowing]
  | ⟨_, _, .single _⟩ :: entries =>
    rw [Entry.knowing, QueuedCall.knowing, Entry.handles, Entry.handles,
      Entry.handles_knowing entries]
  | ⟨_, _, .nested a⟩ :: entries =>
    rw [Entry.knowing, QueuedCall.knowing, Entry.handles, Entry.handles,
      AggregateOf.handles_knowing a, Entry.handles_knowing entries]

end

/-- No handle tells when an error was registered. -/
theorem Handles.History.knowing {hs : Handles} {as : List Aggregate}
    {log : List (Nat × Option (Except ContractError Outcome))} (h : hs.History as log) :
    hs.History (as.map (AggregateOf.knowing errors)) log := by
  induction h with
  | start => exact .start
  | empty _ client deployment ih =>
    rw [List.map_cons, AggregateOf.knowing_empty]
    exact ih.empty _ deployment
  | addCall _ call allowFailure ih =>
    rw [List.map_cons, AggregateOf.knowing_add, QueuedCall.knowing]
    exact ih.addCall call allowFailure
  | addAggregate _ allowFailure ih =>
    rw [List.map_cons, AggregateOf.knowing_add, QueuedCall.knowing]
    exact ih.addAggregate allowFailure
  | encode _ hencode ih => exact ih.encode (AggregateOf.encode_knowing errors hencode)
  | withInjectedCode _ ih =>
    rw [List.map_cons, AggregateOf.knowing_eq_mapCalls] at ih ⊢
    exact ih.withInjectedCode
  | configure _ request options ih =>
    rw [List.map_cons, AggregateOf.knowing_eq_mapCalls] at ih ⊢
    exact ih.configure request options
  | reorder _ hperm ih => exact ih.reorder (hperm.map _)
  | @leave hs a as log _ settlements hsettles ih =>
    have hleave := ih.leave fun t ht => by
      rw [AggregateOf.handles_knowing]
      exact hsettles t ht
    rwa [AggregateOf.handles_knowing] at hleave
  | take _ hi ih => exact ih.take hi

end ContractCalls
