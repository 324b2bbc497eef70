import ContractCalls.Proofs.Multicall.Adding
import ContractCalls.Proofs.Multicall.Asking

/-!
# Aggregates built anew

An aggregate keeps the encoding of its calls until there are more of them. Another one, to which the
same calls are added one after the other and which has never been encoded, no more than any
aggregate within it, has the same encoding and is dispatched with the same effect.
-/

namespace ContractCalls

/-! ### Building an aggregate anew -/

namespace AggregateOf

/-- Adds calls one after the other. -/
def addAll (a : Aggregate) (entries : List (Entry QueuedCall)) : Aggregate :=
  entries.foldl (fun a e => a.add e.call e.allowFailure e.handle) a

end AggregateOf

mutual

/-- The call, where an aggregate is built anew. -/
def QueuedCall.renewed : QueuedCall → QueuedCall
  | .single call => .single call
  | .nested a => .nested (AggregateOf.renewed a)

/-- An aggregate of the same client to which the calls are added again, those that are aggregates
built anew. -/
def AggregateOf.renewed : Aggregate → Aggregate
  | ⟨client, deployment, entries, _, _, _, _, _⟩ =>
    (AggregateOf.empty client deployment).addAll (Entry.renewed entries)

def Entry.renewed : List (Entry QueuedCall) → List (Entry QueuedCall)
  | [] => []
  | ⟨handle, allowFailure, call⟩ :: entries =>
    ⟨handle, allowFailure, call.renewed⟩ :: Entry.renewed entries

end

namespace AggregateOf

lemma addAll_cons (a : Aggregate) (e : Entry QueuedCall) (entries : List (Entry QueuedCall)) :
    a.addAll (e :: entries) = (a.add e.call e.allowFailure e.handle).addAll entries :=
  rfl

@[simp] lemma entries_addAll (a : Aggregate) (entries : List (Entry QueuedCall)) :
    (a.addAll entries).entries = a.entries ++ entries := by
  induction entries generalizing a with
  | nil => exact (List.append_nil _).symm
  | cons e entries ih => rw [addAll_cons, ih, add, List.append_assoc, List.singleton_append]

@[simp] lemma client_addAll (a : Aggregate) (entries : List (Entry QueuedCall)) :
    (a.addAll entries).client = a.client := by
  induction entries generalizing a with
  | nil => rfl
  | cons e entries ih => rw [addAll_cons, ih, add]

@[simp] lemma deployment_addAll (a : Aggregate) (entries : List (Entry QueuedCall)) :
    (a.addAll entries).deployment = a.deployment := by
  induction entries generalizing a with
  | nil => rfl
  | cons e entries ih => rw [addAll_cons, ih, add]

lemma renewed_eq (a : Aggregate) :
    a.renewed = (empty a.client a.deployment).addAll (Entry.renewed a.entries) := by
  cases a
  rw [renewed]

@[simp] lemma entries_renewed (a : Aggregate) :
    a.renewed.entries = Entry.renewed a.entries := by
  rw [renewed_eq, entries_addAll]
  rfl

@[simp] lemma client_renewed (a : Aggregate) : a.renewed.client = a.client := by
  rw [renewed_eq, client_addAll]
  rfl

@[simp] lemma deployment_renewed (a : Aggregate) : a.renewed.deployment = a.deployment := by
  rw [renewed_eq, deployment_addAll]
  rfl

end AggregateOf

lemma Entry.renewed_append (entries others : List (Entry QueuedCall)) :
    Entry.renewed (entries ++ others) =
      Entry.renewed entries ++ Entry.renewed others := by
  induction entries with
  | nil => rw [List.nil_append, Entry.renewed, List.nil_append]
  | cons e entries ih => rw [List.cons_append, Entry.renewed, Entry.renewed, ih, List.cons_append]

lemma Entry.length_renewed (entries : List (Entry QueuedCall)) :
    (Entry.renewed entries).length = entries.length := by
  induction entries with
  | nil => rw [Entry.renewed]
  | cons e entries ih => rw [Entry.renewed, List.length_cons, ih, List.length_cons]

/-! ### Nothing is kept -/

namespace AggregateOf

/-- An aggregate that a caller can make and that was not encoded. -/
structure IsFresh (a : Aggregate) : Prop where
  isBuilt : a.IsBuilt
  encoded_eq_none : a.encoded = none

lemma IsFresh.addAll {a : Aggregate} (h : a.IsFresh) {entries : List (Entry QueuedCall)}
    (hentries : Entry.ForAggregates IsFresh entries) : (a.addAll entries).IsFresh := by
  induction entries generalizing a with
  | nil => exact h
  | cons e entries ih =>
    obtain ⟨handle, allowFailure, call⟩ := e
    rw [Entry.ForAggregates] at hentries
    -- adding a call keeps what was encoded, which is nothing
    refine ih ⟨?_, h.encoded_eq_none⟩ hentries.2
    cases call with
    | single call => exact .addCall h.isBuilt call allowFailure handle
    | nested b =>
      have hb := hentries.1
      rw [QueuedCall.ForAggregates, forAggregates_iff] at hb
      exact .addAggregate h.isBuilt hb.1.isBuilt allowFailure handle

end AggregateOf

mutual

lemma QueuedCall.isFresh_renewed (call : QueuedCall) :
    call.renewed.ForAggregates AggregateOf.IsFresh := by
  match call with
  | .single call =>
    rw [QueuedCall.renewed, QueuedCall.ForAggregates]
    trivial
  | .nested a =>
    rw [QueuedCall.renewed, QueuedCall.ForAggregates]
    exact AggregateOf.isFresh_renewed a

lemma AggregateOf.isFresh_renewed (a : Aggregate) :
    a.renewed.ForAggregates AggregateOf.IsFresh := by
  match a with
  | ⟨client, deployment, entries, _, _, _, _, _⟩ =>
    have hentries := Entry.isFresh_renewed entries
    rw [AggregateOf.forAggregates_iff, AggregateOf.entries_renewed, AggregateOf.renewed]
    exact ⟨AggregateOf.IsFresh.addAll ⟨.empty client deployment, rfl⟩ hentries, hentries⟩

lemma Entry.isFresh_renewed (entries : List (Entry QueuedCall)) :
    Entry.ForAggregates AggregateOf.IsFresh (Entry.renewed entries) := by
  match entries with
  | [] =>
    rw [Entry.renewed, Entry.ForAggregates]
    trivial
  | ⟨_, _, call⟩ :: entries =>
    rw [Entry.renewed, Entry.ForAggregates]
    exact ⟨QueuedCall.isFresh_renewed call, Entry.isFresh_renewed entries⟩

end

/-! ### The same encoding -/

namespace AggregateOf

/-- Where the flags agree with the calls, the calls settle the encoding. -/
lemma IsSound.freshEncoding_eq {a b : Aggregate} (ha : a.IsSound) (hb : b.IsSound)
    (hcalls : a.calls = b.calls) : a.freshEncoding = b.freshEncoding :=
  freshEncoding_congr hcalls (by rw [ha.anyPayable_eq, hb.anyPayable_eq, hcalls])
    (by rw [ha.mixedFailure_eq, hb.mixedFailure_eq, hcalls])

lemma isSound_renewed (a : Aggregate) : a.renewed.ForAggregates IsSound :=
  (forAggregates_iff.mp a.isFresh_renewed).1.isBuilt.isSound

end AggregateOf

mutual

/-- What a call says does not depend on what was kept. -/
lemma QueuedCall.same_renewed {call : QueuedCall} (h : call.ForAggregates AggregateOf.IsSound) :
    call.renewed.target = call.target ∧ call.renewed.value = call.value ∧
      call.renewed.data = call.data := by
  match call with
  | .single call =>
    rw [QueuedCall.renewed]
    exact ⟨rfl, rfl, rfl⟩
  | .nested a =>
    rw [QueuedCall.ForAggregates] at h
    have hfresh : a.renewed.freshEncoding = a.freshEncoding :=
      AggregateOf.freshEncoding_renewed h
    rw [QueuedCall.renewed]
    refine ⟨by rw [QueuedCall.target, QueuedCall.target, AggregateOf.deployment_renewed], ?_, ?_⟩
    · rw [QueuedCall.value, QueuedCall.value]
      exact congrArg EncodedBatch.value hfresh
    · rw [QueuedCall.data, QueuedCall.data, AggregateOf.data_eq, AggregateOf.data_eq]
      exact congrArg EncodedBatch.calldata hfresh

lemma AggregateOf.freshEncoding_renewed {a : Aggregate} (h : a.ForAggregates AggregateOf.IsSound) :
    a.renewed.freshEncoding = a.freshEncoding := by
  match a with
  | ⟨client, deployment, entries, anyPayable, mixedFailure, encoded, request, options⟩ =>
    obtain ⟨hsound, hentries⟩ := AggregateOf.forAggregates_iff.mp h
    -- the flags were set again while the calls were added, and agree with them on both sides
    refine (AggregateOf.forAggregates_iff.mp
      (AggregateOf.isSound_renewed _)).1.freshEncoding_eq hsound ?_
    rw [AggregateOf.calls, AggregateOf.entries_renewed]
    exact Entry.calls_renewed hentries

lemma Entry.calls_renewed {entries : List (Entry QueuedCall)}
    (h : Entry.ForAggregates AggregateOf.IsSound entries) :
    Entry.calls (Entry.renewed entries) = Entry.calls entries := by
  match entries with
  | [] => rw [Entry.renewed]
  | ⟨_, _, call⟩ :: entries =>
    rw [Entry.ForAggregates] at h
    obtain ⟨htarget, hvalue, hdata⟩ : call.renewed.target = call.target ∧ _ :=
      QueuedCall.same_renewed h.1
    rw [Entry.renewed, Entry.calls, Entry.calls, htarget, hvalue, hdata, Entry.calls_renewed h.2]

end

mutual

/-- Encoding changes nothing but what is kept. -/
lemma QueuedCall.renewed_calldata {c c' : QueuedCall} {data : Bytes}
    (h : c.calldata = .ok (data, c')) : c'.renewed = c.renewed := by
  match c with
  | .single call => rw [(QueuedCall.calldata_single h).2]
  | .nested a =>
    obtain ⟨encoded, a', hencode, -, rfl⟩ := QueuedCall.calldata_nested h
    rw [QueuedCall.renewed, QueuedCall.renewed, AggregateOf.renewed_encode hencode]

lemma AggregateOf.renewed_encode {a a' : Aggregate} {encoded : EncodedBatch}
    (h : a.encode = .ok (encoded, a')) :
    a'.renewed = a.renewed := by
  match a with
  | ⟨client, deployment, entries, _, _, _, _, _⟩ =>
    rcases AggregateOf.encode_cases h with ⟨-, -, rfl⟩ | ⟨calls, entries', hbatch, -, rfl⟩
    · rfl
    · rw [AggregateOf.renewed, AggregateOf.renewed, Entry.renewed_batchCalls hbatch]

lemma Entry.renewed_batchCalls {entries entries' : List (Entry QueuedCall)} {calls : List BatchCall}
    (h : Entry.batchCalls entries = .ok (calls, entries')) :
    Entry.renewed entries' = Entry.renewed entries := by
  match entries with
  | [] => rw [(Entry.batchCalls_nil h).2]
  | ⟨_, _, call⟩ :: entries =>
    obtain ⟨data, call', rest, rest', hcall, hrest, -, rfl⟩ := Entry.batchCalls_cons h
    rw [Entry.renewed, Entry.renewed, QueuedCall.renewed_calldata hcall,
      Entry.renewed_batchCalls hrest]

end

/-! ### The same settling -/

namespace AggregateOf

lemma fail_entries (err : ContractError) (a : Aggregate) :
    a.fail err = Entry.failAll err a.entries := by
  cases a
  rw [fail]

lemma distribute_entries (data : Bytes) (a : Aggregate) :
    a.distribute data =
      match resultsFor a.entries.length data with
      | .error err => (.error err, Entry.failAll err a.entries)
      | .ok results =>
        let (output, settlements) := Entry.distribute a.client.errors results a.entries
        (.ok output, settlements) := by
  cases a
  unfold distribute
  rfl

end AggregateOf

mutual

lemma AggregateOf.fail_renewed (err : ContractError) (a : Aggregate) :
    a.renewed.fail err = a.fail err := by
  match a with
  | ⟨_, _, entries, _, _, _, _, _⟩ =>
    rw [AggregateOf.fail_entries, AggregateOf.entries_renewed, AggregateOf.fail]
    exact Entry.failAll_renewed err entries

lemma Entry.failAll_renewed (err : ContractError) (entries : List (Entry QueuedCall)) :
    Entry.failAll err (Entry.renewed entries) = Entry.failAll err entries := by
  match entries with
  | [] => rw [Entry.renewed]
  | ⟨_, _, .single call⟩ :: entries =>
    rw [Entry.renewed, QueuedCall.renewed, Entry.failAll, Entry.failAll,
      Entry.failAll_renewed err entries]
  | ⟨_, _, .nested a⟩ :: entries =>
    rw [Entry.renewed, QueuedCall.renewed, Entry.failAll, Entry.failAll,
      AggregateOf.fail_renewed err a, Entry.failAll_renewed err entries]

end

lemma QueuedCall.failWithin_renewed (err : ContractError) (call : QueuedCall) :
    call.renewed.failWithin err = call.failWithin err := by
  cases call with
  | single call => rw [QueuedCall.renewed]
  | nested a =>
    rw [QueuedCall.renewed, QueuedCall.failWithin, QueuedCall.failWithin, AggregateOf.fail_renewed]

mutual

/-- An answer is distributed in the same way. -/
lemma AggregateOf.distribute_renewed (data : Bytes) (a : Aggregate) :
    a.renewed.distribute data = a.distribute data := by
  match a with
  | ⟨client, _, entries, _, _, _, _, _⟩ =>
    rw [AggregateOf.distribute_entries, AggregateOf.entries_renewed, AggregateOf.client_renewed,
      AggregateOf.distribute, Entry.length_renewed]
    cases resultsFor entries.length data with
    | error err =>
      dsimp only
      rw [Entry.failAll_renewed]
    | ok results =>
      dsimp only
      rw [Entry.distribute_renewed client.errors results entries]

lemma Entry.distribute_renewed (errors : ErrorRegistry) (results : List (Bool × Bytes))
    (entries : List (Entry QueuedCall)) :
    Entry.distribute errors results (Entry.renewed entries) =
      Entry.distribute errors results entries := by
  match results, entries with
  | [], _ => simp only [Entry.distribute]
  | _ :: _, [] => rw [Entry.renewed]
  | (success, data) :: results, ⟨_, _, call⟩ :: entries =>
    rw [Entry.renewed, Entry.distribute, Entry.distribute,
      Entry.distribute_renewed errors results entries, QueuedCall.complete_renewed data call]
    simp only [QueuedCall.failWithin_renewed]

lemma QueuedCall.complete_renewed (data : Bytes) (call : QueuedCall) :
    call.renewed.complete data = call.complete data := by
  match call with
  | .single call => rw [QueuedCall.renewed]
  | .nested a =>
    rw [QueuedCall.renewed, QueuedCall.complete, QueuedCall.complete,
      AggregateOf.distribute_renewed data a]

end

namespace AggregateOf

variable {a b : Aggregate}

/-- Aggregates that are the same when they are built anew settle the same handles in the same
way. -/
lemma fail_congr (h : a.renewed = b.renewed) (err : ContractError) : a.fail err = b.fail err := by
  rw [← fail_renewed err a, h, fail_renewed]

lemma distribute_congr (h : a.renewed = b.renewed) (data : Bytes) :
    a.distribute data = b.distribute data := by
  rw [← distribute_renewed data a, h, distribute_renewed]

end AggregateOf

/-! ### The same dispatch -/

namespace AggregateOf

/-- The aggregate built anew, with the request and the options that it has itself. -/
def anew (a : Aggregate) : Aggregate :=
  { a.renewed with request := a.request, options := a.options }

lemma isFresh_anew (a : Aggregate) : a.anew.ForAggregates IsFresh := by
  obtain ⟨hfresh, hentries⟩ := forAggregates_iff.mp a.isFresh_renewed
  exact forAggregates_iff.mpr
    ⟨⟨.configure hfresh.isBuilt a.request a.options, hfresh.encoded_eq_none⟩, hentries⟩

lemma isSound_anew (a : Aggregate) : a.anew.ForAggregates IsSound :=
  (forAggregates_iff.mp a.isFresh_anew).1.isBuilt.isSound

lemma freshEncoding_anew {a : Aggregate} (h : a.ForAggregates IsSound) :
    a.anew.freshEncoding = a.freshEncoding :=
  calc a.anew.freshEncoding
    _ = a.renewed.freshEncoding := freshEncoding_congr rfl rfl rfl
    _ = a.freshEncoding := freshEncoding_renewed h

lemma client_anew (a : Aggregate) : a.anew.client = a.client :=
  client_renewed a

lemma deployment_anew (a : Aggregate) : a.anew.deployment = a.deployment :=
  deployment_renewed a

lemma options_anew (a : Aggregate) : a.anew.options = a.options :=
  rfl

/-- Aggregates with the same encoding that go to the same contract with the same request ask the
same. -/
lemma prepare_congr {a b : Aggregate} (ha : a.ForAggregates IsSound) (hb : b.ForAggregates IsSound)
    (hfresh : b.freshEncoding = a.freshEncoding) (hdeployment : b.deployment = a.deployment)
    (hrequest : b.request = a.request) : b.prepare = a.prepare := by
  obtain ⟨⟨encoded, a'⟩, hencode⟩ := exists_encode a
  obtain ⟨⟨encoded', b'⟩, hencode'⟩ := exists_encode b
  obtain ⟨rfl, -⟩ := encode_sound ha hencode
  obtain ⟨rfl, -⟩ := encode_sound hb hencode'
  have hcount : b.entries.length = a.entries.length := by
    rw [← length_calls, ← length_calls]
    exact congrArg EncodedBatch.count hfresh
  have hempty : b.entries.isEmpty = a.entries.isEmpty := by
    rw [Bool.eq_iff_iff, List.isEmpty_iff_length_eq_zero, List.isEmpty_iff_length_eq_zero, hcount]
  rw [prepare, prepare, hencode, hencode', hfresh, hdeployment, hrequest, hempty]
  rfl

lemma prepare_anew {a : Aggregate} (h : a.ForAggregates IsSound) :
    a.anew.prepare = a.prepare :=
  prepare_congr h a.isSound_anew (freshEncoding_anew h) a.deployment_anew rfl

lemma entries_anew (a : Aggregate) : a.anew.entries = a.renewed.entries :=
  rfl

lemma fail_anew (err : ContractError) (a : Aggregate) : a.anew.fail err = a.fail err := by
  rw [fail_entries, entries_anew, ← fail_entries, fail_renewed]

lemma distribute_anew (data : Bytes) (a : Aggregate) :
    a.anew.distribute data = a.distribute data := by
  rw [distribute_entries, entries_anew, client_anew, ← client_renewed, ← distribute_entries,
    distribute_renewed]

variable {σ : Type} [Node σ]

lemma call_anew {a : Aggregate} (h : a.ForAggregates IsSound) :
    (a.anew.call : StateM σ (Dispatched AggregateOutput)) = a.call := by
  rw [call, call, prepare_anew h, options_anew, deployment_anew, client_anew]
  simp only [fail_anew, distribute_anew]

lemma send_anew {a : Aggregate} (h : a.ForAggregates IsSound) (signer : Signer) :
    (a.anew.send signer : StateM σ (Dispatched (PendingInclusion Receipt))) = a.send signer := by
  rw [send, send, prepare_anew h, options_anew, client_anew]
  simp only [fail_anew, distribute_anew]

variable {added : List (Entry QueuedCall)} {a : Aggregate}

/-- Whatever has been encoded since, the calls are the added ones. -/
lemma IsBuiltBy.renewed_entries (h : IsBuiltBy added a) :
    Entry.renewed a.entries = Entry.renewed added := by
  induction h with
  | empty => rfl
  | addCall h call allowFailure handle ih | addAggregate h hb allowFailure handle ih =>
    rw [add, Entry.renewed_append, Entry.renewed_append, ih]
  | encode h hencode ih =>
    have hentries := congrArg AggregateOf.entries (renewed_encode hencode)
    rw [← entries_renewed, hentries, entries_renewed, ih]
  | withInjectedCode h ih => exact ih
  | configure h request options ih => exact ih

/-- What is dispatched has the calldata and the value of the encoding. -/
lemma prepare_encode {encoded : EncodedBatch} {a' : Aggregate} {request : CallRequest}
    (ha : a.ForAggregates IsSound) (hencode : a.encode = .ok (encoded, a'))
    (hprepare : a.prepare = .ok request) :
    request.data = encoded.calldata ∧ request.value = encoded.value := by
  obtain ⟨rfl, -⟩ := encode_sound ha hencode
  have hentries : a.entries ≠ [] :=
    fun hempty => by cases (prepare_of_empty hempty).symm.trans hprepare
  rcases prepare_of_not_empty ha hentries with ⟨-, hmismatch⟩ | ⟨-, hok⟩
  · cases hmismatch.symm.trans hprepare
  · obtain rfl := Except.ok.inj (hok.symm.trans hprepare)
    exact ⟨a.data_eq, rfl⟩

lemma count_encode {encoded : EncodedBatch} {a' : Aggregate} (ha : a.ForAggregates IsSound)
    (hencode : a.encode = .ok (encoded, a')) :
    encoded.count = a.entries.length ∧ a'.entries.length = a.entries.length := by
  obtain ⟨rfl, hcalls, -⟩ := encode_sound ha hencode
  exact ⟨a.length_calls, by rw [← length_calls, hcalls, length_calls]⟩

/-- What an aggregate keeps is never out of date. Whenever calls were added to it and to the
aggregates within, and whenever these were encoded, it has the layout, the total and the encoding of
an aggregate to which the same calls are added and that has not been encoded before, nor has any
aggregate within it. It is dispatched with this encoding, and with the same effect on any node. -/
theorem encode_eq_fresh (h : IsBuiltBy added a) :
    let fresh : Aggregate :=
      { (empty a.client a.deployment).addAll (Entry.renewed added) with
        request := a.request, options := a.options }
    fresh.ForAggregates IsFresh ∧ a.strategy = fresh.strategy ∧ a.totalValue = fresh.totalValue ∧
      ∃ encoded a' fresh', a.encode = .ok (encoded, a') ∧ fresh.encode = .ok (encoded, fresh') ∧
        (∀ request, a.prepare = .ok request →
          request.data = encoded.calldata ∧ request.value = encoded.value) ∧
        (a.call : StateM σ (Dispatched AggregateOutput)) = fresh.call ∧
        ∀ signer, (a.send signer : StateM σ (Dispatched (PendingInclusion Receipt))) =
          fresh.send signer := by
  have hsound := h.isBuilt.isSound
  have hanew : { (empty a.client a.deployment).addAll (Entry.renewed added) with
      request := a.request, options := a.options } = a.anew := by
    rw [anew, renewed_eq, h.renewed_entries]
  rw [hanew]
  have hfresh : a.freshEncoding = a.anew.freshEncoding := (freshEncoding_anew hsound).symm
  refine ⟨a.isFresh_anew, congrArg EncodedBatch.strategy hfresh,
    congrArg EncodedBatch.value hfresh, ?_⟩
  obtain ⟨⟨encoded, a'⟩, hencode⟩ := exists_encode a
  obtain ⟨⟨encoded', fresh'⟩, hencode'⟩ := exists_encode a.anew
  have hsame : encoded' = encoded := by
    rw [(encode_sound hsound hencode).1, (encode_sound a.isSound_anew hencode').1, hfresh]
  exact ⟨encoded, a', fresh', hencode, hsame ▸ hencode', fun _ => prepare_encode hsound hencode,
    (call_anew hsound).symm, fun signer => (send_anew hsound signer).symm⟩

/-- An aggregate gets a call after it was encoded, and so does the one that it is added to. -/
theorem encode_eq_fresh_nested :
    let client : Client := { chainId := 1, config := {}, errors := {} }
    let start := empty client { address := canonicalMulticall }
    let single := client.rawCall 7 [0xab] fun _ => .ok []
    ∃ early within kept outer, (start.add (.single single) false 0).encode = .ok (early, within) ∧
      (start.add (.nested (within.add (.single single) true 1)) false 2).encode =
        .ok (kept, outer) ∧
      let added : List (Entry QueuedCall) :=
        [⟨2, false, .nested (within.add (.single single) true 1)⟩, ⟨3, true, .single single⟩]
      let a := (outer.add (.single single) true 3).withInjectedCode
      let fresh : Aggregate :=
        { (empty a.client a.deployment).addAll (Entry.renewed added) with
          request := a.request, options := a.options }
      IsBuiltBy added a ∧ ∃ encoded a' fresh', a.encode = .ok (encoded, a') ∧
        fresh.encode = .ok (encoded, fresh') ∧ encoded.count = kept.count + 1 := by
  intro client start single
  obtain ⟨⟨early, within⟩, hearly⟩ := exists_encode (start.add (.single single) false 0)
  obtain ⟨⟨kept, outer⟩, hkept⟩ :=
    exists_encode (start.add (.nested (within.add (.single single) true 1)) false 2)
  have hwithin : (within.add (.single single) true 1).IsBuilt :=
    .addCall (.encode (.addCall (.empty client _) single false 0) hearly) single true 1
  have houter : IsBuiltBy [⟨2, false, .nested (within.add (.single single) true 1)⟩] outer :=
    .encode (.addAggregate (.empty client _) hwithin false 2) hkept
  have hbuilt := (houter.addCall single true 3).withInjectedCode
  obtain ⟨-, -, -, encoded, a', fresh', hencode, hfresh, -⟩ :=
    encode_eq_fresh (σ := SimulatedChain) hbuilt
  refine ⟨early, within, kept, outer, hearly, hkept, hbuilt, encoded, a', fresh', hencode,
    hfresh, ?_⟩
  have hstart : IsBuilt (start.add (.nested (within.add (.single single) true 1)) false 2) :=
    .addAggregate (.empty client _) hwithin false 2
  obtain ⟨hcount, hlength⟩ := count_encode hstart.isSound hkept
  rw [(count_encode hbuilt.isBuilt.isSound hencode).1, hcount, ← hlength]
  exact List.length_append

end AggregateOf

end ContractCalls
