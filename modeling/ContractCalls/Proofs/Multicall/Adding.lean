import ContractCalls.Proofs.Multicall.Building

/-!
# What the calldata say of the added calls

The calldata of an aggregate hold one call for each call that was added to it, in the same order and
with everything that was given for it. The cheaper layouts leave out values and flags only where
reading puts back the same ones.
-/

namespace ContractCalls

open AggregateOf

/-- A call of a batch says what an added call does. -/
structure Entry.IsCarriedBy (e : Entry QueuedCall) (call : BatchCall) : Prop where
  target_eq : call.target = e.call.target
  allowFailure_eq : call.allowFailure = e.allowFailure
  value_eq : call.value = e.call.value
  exists_calldata : ∃ c, e.call.calldata = .ok (call.data, c)

/-- An aggregate to which calls were added one after the other. In between it may be encoded and
configured, and an aggregate that is added may come about in any way. -/
inductive AggregateOf.IsBuiltBy : List (Entry QueuedCall) → Aggregate → Prop where
  | empty (client : Client) (deployment : Deployment) : IsBuiltBy [] (.empty client deployment)
  | addCall {added : List (Entry QueuedCall)} {a : Aggregate} (h : IsBuiltBy added a)
      (call : ReadCall) (allowFailure : Bool) (handle : Nat) :
      IsBuiltBy (added ++ [⟨handle, allowFailure, .single call⟩])
        (a.add (.single call) allowFailure handle)
  | addAggregate {added : List (Entry QueuedCall)} {a b : Aggregate} (h : IsBuiltBy added a)
      (hb : b.IsBuilt) (allowFailure : Bool) (handle : Nat) :
      IsBuiltBy (added ++ [⟨handle, allowFailure, .nested b⟩])
        (a.add (.nested b) allowFailure handle)
  | encode {added : List (Entry QueuedCall)} {a a' : Aggregate} {encoded : EncodedBatch}
      (h : IsBuiltBy added a) (hencode : a.encode = .ok (encoded, a')) : IsBuiltBy added a'
  | withInjectedCode {added : List (Entry QueuedCall)} {a : Aggregate} (h : IsBuiltBy added a) :
      IsBuiltBy added a.withInjectedCode
  | configure {added : List (Entry QueuedCall)} {a : Aggregate} (h : IsBuiltBy added a)
      (request : CallRequest) (options : CallOptions) : IsBuiltBy added { a with request, options }

namespace AggregateOf.IsBuiltBy

variable {added : List (Entry QueuedCall)} {a : Aggregate}

lemma isBuilt (h : IsBuiltBy added a) : a.IsBuilt := by
  induction h with
  | empty client deployment => exact .empty client deployment
  | addCall _ call allowFailure handle ih => exact ih.addCall call allowFailure handle
  | addAggregate _ hb allowFailure handle ih => exact ih.addAggregate hb allowFailure handle
  | encode _ hencode ih => exact ih.encode hencode
  | withInjectedCode _ ih => exact ih.withInjectedCode
  | configure _ request options ih => exact ih.configure request options

/-- The calls of the aggregate are the added ones, whatever has been encoded since. -/
lemma calls_eq (h : IsBuiltBy added a) : a.calls = Entry.calls added := by
  induction h with
  | empty client deployment => rfl
  | addCall _ call allowFailure handle ih =>
    rw [calls_add, ih, Entry.calls_append]
    simp only [Entry.calls]
  | addAggregate _ _ allowFailure handle ih =>
    rw [calls_add, ih, Entry.calls_append]
    simp only [Entry.calls]
  | encode h hencode ih =>
    obtain ⟨-, hcalls, -⟩ := encode_sound h.isBuilt.isSound hencode
    rw [hcalls, ih]
  | withInjectedCode _ ih => exact ih
  | configure _ request options ih => exact ih

/-- All aggregates among the added calls keep what agrees with their calls. -/
lemma forAggregates_isSound (h : IsBuiltBy added a) : Entry.ForAggregates IsSound added := by
  induction h with
  | empty client deployment =>
    rw [Entry.ForAggregates]
    trivial
  | addCall _ call allowFailure handle ih =>
    rw [Entry.forAggregates_append]
    exact ⟨ih, by simp [Entry.ForAggregates, QueuedCall.ForAggregates]⟩
  | addAggregate _ hb allowFailure handle ih =>
    rw [Entry.forAggregates_append]
    exact ⟨ih, by simpa [Entry.ForAggregates, QueuedCall.ForAggregates] using hb.isSound⟩
  | encode _ _ ih => exact ih
  | withInjectedCode _ ih => exact ih
  | configure _ request options ih => exact ih

end AggregateOf.IsBuiltBy

/-- Each entry is carried by its call, as encoding an aggregate always writes the same calldata. -/
lemma Entry.forall₂_isCarriedBy {entries : List (Entry QueuedCall)}
    (h : Entry.ForAggregates IsSound entries) :
    List.Forall₂ Entry.IsCarriedBy entries (Entry.calls entries) := by
  induction entries with
  | nil =>
    rw [Entry.calls]
    exact .nil
  | cons e entries ih =>
    obtain ⟨handle, allowFailure, call⟩ := e
    rw [Entry.ForAggregates] at h
    rw [Entry.calls]
    refine .cons ⟨rfl, rfl, rfl, ?_⟩ (ih h.2)
    obtain ⟨⟨data, c⟩, hcalldata⟩ := call.exists_calldata
    obtain ⟨rfl, -⟩ := QueuedCall.calldata_sound h.1 hcalldata
    exact ⟨c, hcalldata⟩

lemma Entry.map_value_of_isCarriedBy {entries : List (Entry QueuedCall)} {calls : List BatchCall}
    (h : List.Forall₂ Entry.IsCarriedBy entries calls) :
    calls.map (·.value) = entries.map (·.call.value) := by
  induction h with
  | nil => rfl
  | cons h _ ih => rw [List.map_cons, List.map_cons, h.value_eq, ih]

namespace AggregateOf

/-- The entry points of the multicall contract have different selectors, and the calldata of an
aggregate are read as a batch in the layout that is chosen, which carries each added call in its
place. -/
theorem decode?_encode_carries {added : List (Entry QueuedCall)} {a : Aggregate}
    (h : IsBuiltBy added a) :
    (∀ requireSuccess, ([Strategy.aggregate3Value, .aggregate3, .tryAggregate requireSuccess].map
      (·.function.selector)).Nodup) ∧
    ∃ encoded a', a.encode = .ok (encoded, a') ∧ (encoded.calldata.length < Size.limit →
      ∃ b, Batch.decode? encoded.calldata = some b ∧ b.strategy = a.strategy ∧
        List.Forall₂ Entry.IsCarriedBy added b.calls) := by
  constructor
  · intro requireSuccess
    simp [Strategy.selector_aggregate3Value, Strategy.selector_aggregate3,
      Strategy.selector_tryAggregate]
  · have hsound := h.isBuilt.isSound
    obtain ⟨⟨encoded, a'⟩, hencode⟩ := exists_encode a
    obtain ⟨rfl, -⟩ := encode_sound hsound hencode
    refine ⟨_, a', hencode, fun hlen => ⟨a.batch, ?_, rfl, ?_⟩⟩
    · exact Batch.decode?_calldata (forAggregates_iff.mp hsound).1.keeps hlen
    · rw [batch, h.calls_eq]
      exact Entry.forall₂_isCarriedBy h.forAggregates_isSound

/-- A call that may fail and an aggregate that may not: the layout needs the flags, and no values.
With one more aggregate, in which a call has a value, it needs both. -/
theorem decode?_encode_carries_mixed :
    let client : Client := { chainId := 1, config := {}, errors := {} }
    let start := empty client { address := canonicalMulticall }
    let single := client.rawCall 7 [0xab] fun _ => .ok []
    let paying := { single with request.value := 5 }
    let within := start.add (.single single) false 0
    let rich := start.add (.single paying) true 3
    let added : List (Entry QueuedCall) := [⟨1, true, .single single⟩, ⟨2, false, .nested within⟩]
    let a := (start.add (.single single) true 1).add (.nested within) false 2
    let more := added ++ [⟨4, true, .nested rich⟩]
    let b := a.add (.nested rich) true 4
    IsBuiltBy added a ∧ IsBuiltBy more b ∧
      (∃ encoded a' batch, a.encode = .ok (encoded, a') ∧
        Batch.decode? encoded.calldata = some batch ∧ batch.strategy = .aggregate3 ∧
        List.Forall₂ Entry.IsCarriedBy added batch.calls) ∧
      ∃ encoded b' batch, b.encode = .ok (encoded, b') ∧
        Batch.decode? encoded.calldata = some batch ∧ batch.strategy = .aggregate3Value ∧
        List.Forall₂ Entry.IsCarriedBy more batch.calls ∧
        batch.calls.map (·.value) = [0, 0, 5] := by
  intro client start single paying within rich added a more b
  have hwithin : within.IsBuilt := .addCall (.empty client _) single false 0
  have hrich : rich.IsBuilt := .addCall (.empty client _) paying true 3
  have ha : IsBuiltBy added a :=
    .addAggregate (.addCall (.empty client _) single true 1) hwithin false 2
  have hb : IsBuiltBy more b := ha.addAggregate hrich true 4
  obtain ⟨-, encoded, a', hencode, hread⟩ := decode?_encode_carries ha
  obtain ⟨-, encoded', b', hencode', hread'⟩ := decode?_encode_carries hb
  have hlen : encoded.calldata.length < Size.limit := by
    obtain ⟨rfl, -⟩ := encode_sound ha.isBuilt.isSound hencode
    decide +kernel
  have hlen' : encoded'.calldata.length < Size.limit := by
    obtain ⟨rfl, -⟩ := encode_sound hb.isBuilt.isSound hencode'
    decide +kernel
  obtain ⟨batch, hdecode, hstrategy, hcarried⟩ := hread hlen
  obtain ⟨batch', hdecode', hstrategy', hcarried'⟩ := hread' hlen'
  have hvalues : batch'.calls.map (·.value) = more.map (·.call.value) :=
    Entry.map_value_of_isCarriedBy hcarried'
  exact ⟨ha, hb,
    ⟨encoded, a', batch, hencode, hdecode, hstrategy.trans (by decide +kernel), hcarried⟩,
    encoded', b', batch', hencode', hdecode', hstrategy'.trans (by decide +kernel), hcarried',
    hvalues.trans (by decide +kernel)⟩

end AggregateOf

end ContractCalls
