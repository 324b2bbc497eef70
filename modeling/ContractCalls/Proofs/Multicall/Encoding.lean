import ContractCalls.Multicall.Dispatch
import ContractCalls.Proofs.Multicall.Batch

/-!
# Encoding aggregates

The batch that an aggregate stands for follows from its calls alone. What an aggregate keeps beside
them, the two flags and the batch encoded last, agrees with them however the aggregate was built, so
that its encoding is always that of its calls.
-/

namespace ContractCalls

/-! ### Aggregates within an aggregate -/

mutual

/-- All aggregates within a call satisfy `p`. -/
def QueuedCall.ForAggregates (p : Aggregate → Prop) : QueuedCall → Prop
  | .single _ => True
  | .nested a => AggregateOf.ForAggregates p a

/-- The aggregate and all aggregates within it satisfy `p`. -/
def AggregateOf.ForAggregates (p : Aggregate → Prop) : Aggregate → Prop
  | ⟨client, deployment, entries, anyPayable, mixedFailure, encoded, request, options⟩ =>
    p ⟨client, deployment, entries, anyPayable, mixedFailure, encoded, request, options⟩ ∧
      Entry.ForAggregates p entries

def Entry.ForAggregates (p : Aggregate → Prop) : List (Entry QueuedCall) → Prop
  | [] => True
  | ⟨_, _, call⟩ :: entries => call.ForAggregates p ∧ Entry.ForAggregates p entries

end

lemma AggregateOf.forAggregates_iff {p : Aggregate → Prop} {a : Aggregate} :
    a.ForAggregates p ↔ p a ∧ Entry.ForAggregates p a.entries := by
  cases a
  rw [AggregateOf.ForAggregates]

lemma Entry.forAggregates_append {p : Aggregate → Prop} {entries others : List (Entry QueuedCall)} :
    Entry.ForAggregates p (entries ++ others) ↔
      Entry.ForAggregates p entries ∧ Entry.ForAggregates p others := by
  induction entries with
  | nil => simp [Entry.ForAggregates]
  | cons e entries ih =>
    obtain ⟨handle, allowFailure, call⟩ := e
    rw [List.cons_append, Entry.ForAggregates, Entry.ForAggregates, ih, and_assoc]

/-! ### The batch of an aggregate -/

mutual

/-- The calldata of a call, those of an aggregate written anew. -/
def QueuedCall.data : QueuedCall → Bytes
  | .single call => call.request.data
  | .nested a => AggregateOf.data a

def AggregateOf.data : Aggregate → Bytes
  | ⟨_, _, entries, anyPayable, mixedFailure, _, _, _⟩ =>
    (Batch.mk (.select anyPayable mixedFailure (entries.head?.any (·.allowFailure)))
      (Entry.calls entries)).calldata

/-- The entries as calls of a batch. -/
def Entry.calls : List (Entry QueuedCall) → List BatchCall
  | [] => []
  | ⟨_, allowFailure, call⟩ :: entries =>
    ⟨call.target, allowFailure, call.value, call.data⟩ :: Entry.calls entries

end

lemma Entry.calls_append (entries others : List (Entry QueuedCall)) :
    Entry.calls (entries ++ others) = Entry.calls entries ++ Entry.calls others := by
  induction entries with
  | nil => simp [Entry.calls]
  | cons e entries ih =>
    obtain ⟨handle, allowFailure, call⟩ := e
    rw [List.cons_append, Entry.calls, ih, Entry.calls, List.cons_append]

lemma Entry.length_calls (entries : List (Entry QueuedCall)) :
    (Entry.calls entries).length = entries.length := by
  induction entries with
  | nil => simp [Entry.calls]
  | cons e entries ih =>
    obtain ⟨handle, allowFailure, call⟩ := e
    rw [Entry.calls, List.length_cons, ih, List.length_cons]

lemma Entry.sumValues_eq (sum : Word) (entries : List (Entry QueuedCall)) :
    Entry.sumValues sum entries =
      (Entry.calls entries).foldl (fun sum call => addValues sum call.value) sum := by
  induction entries generalizing sum with
  | nil => simp [Entry.sumValues, Entry.calls]
  | cons e entries ih =>
    obtain ⟨handle, allowFailure, call⟩ := e
    rw [Entry.sumValues, Entry.calls, List.foldl_cons, ih]

/-- Whether the first call may fail. -/
lemma Entry.head?_any_allowFailure (entries : List (Entry QueuedCall)) :
    entries.head?.any (·.allowFailure) = (Entry.calls entries).head?.any (·.allowFailure) := by
  cases entries with
  | nil => simp [Entry.calls]
  | cons e entries =>
    obtain ⟨handle, allowFailure, call⟩ := e
    rw [Entry.calls]
    simp

namespace AggregateOf

def calls (a : Aggregate) : List BatchCall :=
  Entry.calls a.entries

def batch (a : Aggregate) : Batch :=
  ⟨a.strategy, a.calls⟩

/-- The encoding that an aggregate without a kept one gets. -/
def freshEncoding (a : Aggregate) : EncodedBatch :=
  ⟨a.calls.length, a.strategy, a.totalValue, a.batch.calldata⟩

lemma data_eq (a : Aggregate) : a.data = a.batch.calldata := by
  cases a
  rw [data]
  rfl

lemma totalValue_eq (a : Aggregate) :
    a.totalValue = a.calls.foldl (fun sum call => addValues sum call.value) 0 := by
  cases a
  rw [totalValue, Entry.sumValues_eq]
  rfl

lemma length_calls (a : Aggregate) : a.calls.length = a.entries.length :=
  Entry.length_calls a.entries

lemma strategy_eq (a : Aggregate) :
    a.strategy = .select a.anyPayable a.mixedFailure (a.calls.head?.any (·.allowFailure)) := by
  rw [strategy, firstMayFail, Entry.head?_any_allowFailure, calls]

/-- The encoding depends on the calls and the flags. -/
lemma freshEncoding_congr {a b : Aggregate} (hcalls : a.calls = b.calls)
    (hpayable : a.anyPayable = b.anyPayable) (hmixed : a.mixedFailure = b.mixedFailure) :
    a.freshEncoding = b.freshEncoding := by
  rw [freshEncoding, freshEncoding, batch, batch, totalValue_eq, totalValue_eq, strategy_eq,
    strategy_eq, hcalls, hpayable, hmixed]

/-- What an aggregate keeps agrees with its calls. -/
structure IsSound (a : Aggregate) : Prop where
  anyPayable_eq : a.anyPayable = a.calls.any (·.value != 0)
  mixedFailure_eq :
    a.mixedFailure = a.calls.any (·.allowFailure != a.calls.head?.any (·.allowFailure))
  count_le : ∀ e ∈ a.encoded, e.count ≤ a.entries.length
  encoded_eq : ∀ e ∈ a.encoded, e.count = a.entries.length → e = a.freshEncoding

/-- The layout that is chosen for the calls keeps everything that they say. -/
lemma IsSound.keeps {a : Aggregate} (h : a.IsSound) : ∀ call ∈ a.calls, a.strategy.Keeps call := by
  intro call hcall
  rw [strategy_eq]
  cases hpayable : a.anyPayable with
  | true => simp only [Strategy.select, if_true, Strategy.Keeps]
  | false =>
    have hvalue : call.value = 0 := by
      have hnone := h.anyPayable_eq.symm.trans hpayable
      simpa using List.any_eq_false.mp hnone call hcall
    cases hmixed : a.mixedFailure with
    | true => simpa only [Strategy.select, if_true, Bool.false_eq_true, if_false, Strategy.Keeps]
    | false =>
      have hsame := List.any_eq_false.mp (h.mixedFailure_eq.symm.trans hmixed) call hcall
      simp only [Strategy.select, Bool.false_eq_true, if_false, Strategy.Keeps, Bool.not_not]
      exact ⟨hvalue, by simpa using hsame⟩

/-- The encoding made from the calls is the fresh one; its count is that of the entries left. -/
lemma encoded_eq_freshEncoding (a : Aggregate) {entries : List (Entry QueuedCall)}
    (hcalls : Entry.calls entries = a.calls) :
    ⟨entries.length, a.strategy, a.totalValue, (Batch.mk a.strategy a.calls).calldata⟩ =
      a.freshEncoding := by
  rw [freshEncoding, batch, ← hcalls, Entry.length_calls]

/-- An aggregate with the same calls and flags that keeps a fresh encoding. -/
lemma IsSound.encoded {a b : Aggregate} (h : a.IsSound) (hcalls : b.calls = a.calls)
    (hpayable : b.anyPayable = a.anyPayable) (hmixed : b.mixedFailure = a.mixedFailure)
    (hencoded : b.encoded = some a.freshEncoding) : b.IsSound where
  anyPayable_eq := by rw [hpayable, hcalls, h.anyPayable_eq]
  mixedFailure_eq := by rw [hmixed, hcalls, h.mixedFailure_eq]
  count_le e he := by
    obtain rfl := Option.mem_some.mp (hencoded ▸ he)
    rw [freshEncoding, ← hcalls, length_calls]
  encoded_eq e he _ := by
    obtain rfl := Option.mem_some.mp (hencoded ▸ he)
    exact (freshEncoding_congr hcalls hpayable hmixed).symm

end AggregateOf

/-! ### Encoding -/

mutual

/-- Encoding does not fail. -/
lemma QueuedCall.exists_calldata (c : QueuedCall) : ∃ result, c.calldata = .ok result := by
  match c with
  | .single call => exact ⟨_, rfl⟩
  | .nested a =>
    obtain ⟨⟨encoded, a'⟩, h⟩ := AggregateOf.exists_encode a
    exact ⟨(encoded.calldata, .nested a'), by rw [QueuedCall.calldata, h]; rfl⟩

lemma AggregateOf.exists_encode (a : Aggregate) : ∃ result, a.encode = .ok result := by
  match a with
  | ⟨client, deployment, entries, anyPayable, mixedFailure, kept, request, options⟩ =>
    rw [AggregateOf.encode]
    cases kept.filter (·.count == entries.length) with
    | some encoded => exact ⟨_, rfl⟩
    | none =>
      obtain ⟨⟨calls, entries'⟩, h⟩ := Entry.exists_batchCalls entries
      simp only [h, Batch.encode_eq]
      exact ⟨_, rfl⟩

lemma Entry.exists_batchCalls (entries : List (Entry QueuedCall)) :
    ∃ result, Entry.batchCalls entries = .ok result := by
  match entries with
  | [] => exact ⟨_, by rw [Entry.batchCalls]⟩
  | ⟨handle, allowFailure, call⟩ :: entries =>
    obtain ⟨⟨data, call'⟩, hcall⟩ := QueuedCall.exists_calldata call
    obtain ⟨⟨calls, entries'⟩, hentries⟩ := Entry.exists_batchCalls entries
    rw [Entry.batchCalls, hcall, hentries]
    exact ⟨_, rfl⟩

end

lemma QueuedCall.calldata_single {call : ReadCall} {c' : QueuedCall} {data : Bytes}
    (h : (QueuedCall.single call).calldata = .ok (data, c')) :
    data = call.request.data ∧ c' = .single call := by
  rw [QueuedCall.calldata, Except.ok.injEq, Prod.mk.injEq] at h
  exact ⟨h.1.symm, h.2.symm⟩

lemma QueuedCall.calldata_nested {a : Aggregate} {c' : QueuedCall} {data : Bytes}
    (h : (QueuedCall.nested a).calldata = .ok (data, c')) :
    ∃ encoded a', a.encode = .ok (encoded, a') ∧ data = encoded.calldata ∧ c' = .nested a' := by
  rw [QueuedCall.calldata, Except.bind_eq_ok_iff] at h
  obtain ⟨⟨encoded, a'⟩, hencode, h⟩ := h
  obtain ⟨rfl, rfl⟩ := Prod.mk.inj (Except.pure_eq_ok_iff.mp h)
  exact ⟨encoded, a', hencode, rfl, rfl⟩

/-- An aggregate answers with the encoding that it keeps, or encodes its calls and keeps the
result. -/
lemma AggregateOf.encode_cases {a a' : Aggregate} {encoded : EncodedBatch}
    (h : a.encode = .ok (encoded, a')) :
    (encoded ∈ a.encoded ∧ encoded.count = a.entries.length ∧ a' = a) ∨
      ∃ calls entries, Entry.batchCalls a.entries = .ok (calls, entries) ∧
        encoded = ⟨entries.length, a.strategy, a.totalValue, (Batch.mk a.strategy calls).calldata⟩ ∧
        a' = { a with entries, encoded := some encoded } := by
  obtain ⟨client, deployment, entries, anyPayable, mixedFailure, kept, request, options⟩ := a
  rw [AggregateOf.encode] at h
  cases hkept : kept.filter (·.count == entries.length) with
  | some e =>
    rw [hkept, Except.ok.injEq, Prod.mk.injEq] at h
    obtain ⟨rfl, rfl⟩ := h
    obtain ⟨hmem, hcount⟩ := Option.filter_eq_some_iff.mp hkept
    exact .inl ⟨hmem, beq_iff_eq.mp hcount, rfl⟩
  | none =>
    rw [hkept, Except.bind_eq_ok_iff] at h
    obtain ⟨⟨calls, entries'⟩, hbatch, h⟩ := h
    obtain ⟨calldata, hcalldata, h⟩ := Except.bind_eq_ok_iff.mp h
    obtain rfl := Except.ok.inj ((Batch.encode_eq _).symm.trans hcalldata)
    obtain ⟨rfl, rfl⟩ := Prod.mk.inj (Except.pure_eq_ok_iff.mp h)
    exact .inr ⟨calls, entries', hbatch, rfl, rfl⟩

lemma Entry.batchCalls_nil {entries : List (Entry QueuedCall)} {calls : List BatchCall}
    (h : Entry.batchCalls [] = .ok (calls, entries)) : calls = [] ∧ entries = [] := by
  rw [Entry.batchCalls, Except.ok.injEq, Prod.mk.injEq] at h
  exact ⟨h.1.symm, h.2.symm⟩

lemma Entry.batchCalls_cons {handle : Nat} {allowFailure : Bool} {call : QueuedCall}
    {entries entries' : List (Entry QueuedCall)} {calls : List BatchCall}
    (h : Entry.batchCalls (⟨handle, allowFailure, call⟩ :: entries) = .ok (calls, entries')) :
    ∃ data call' rest rest', call.calldata = .ok (data, call') ∧
      Entry.batchCalls entries = .ok (rest, rest') ∧
      calls = ⟨call.target, allowFailure, call.value, data⟩ :: rest ∧
      entries' = ⟨handle, allowFailure, call'⟩ :: rest' := by
  rw [Entry.batchCalls, Except.bind_eq_ok_iff] at h
  obtain ⟨⟨data, call'⟩, hcall, h⟩ := h
  obtain ⟨⟨rest, rest'⟩, hentries, h⟩ := Except.bind_eq_ok_iff.mp h
  obtain ⟨rfl, rfl⟩ := Prod.mk.inj (Except.pure_eq_ok_iff.mp h)
  exact ⟨data, call', rest, rest', hcall, hentries, rfl, rfl⟩

mutual

/-- The calldata are those of a fresh encoding, and the call says the same as before. -/
lemma QueuedCall.calldata_sound {c c' : QueuedCall} {data : Bytes}
    (hc : c.ForAggregates AggregateOf.IsSound) (h : c.calldata = .ok (data, c')) :
    data = c.data ∧ c'.target = c.target ∧ c'.value = c.value ∧ c'.data = c.data ∧
      c'.ForAggregates AggregateOf.IsSound := by
  match c with
  | .single call =>
    obtain ⟨rfl, rfl⟩ := QueuedCall.calldata_single h
    exact ⟨by rw [QueuedCall.data], rfl, rfl, rfl, hc⟩
  | .nested a =>
    rw [QueuedCall.ForAggregates] at hc
    obtain ⟨encoded, a', hencode, rfl, rfl⟩ := QueuedCall.calldata_nested h
    obtain ⟨rfl, hcalls, hpayable, hmixed, hdeployment, ha'⟩ := AggregateOf.encode_sound hc hencode
    have hfresh := AggregateOf.freshEncoding_congr hcalls hpayable hmixed
    refine ⟨?_, ?_, ?_, ?_, ?_⟩
    · rw [QueuedCall.data, AggregateOf.data_eq]
      rfl
    · rw [QueuedCall.target, QueuedCall.target, hdeployment]
    · rw [QueuedCall.value, QueuedCall.value]
      exact congrArg EncodedBatch.value hfresh
    · rw [QueuedCall.data, QueuedCall.data, AggregateOf.data_eq, AggregateOf.data_eq]
      exact congrArg EncodedBatch.calldata hfresh
    · rw [QueuedCall.ForAggregates]
      exact ha'

/-- What is encoded is the fresh encoding, and the aggregate has the calls and flags as before. -/
lemma AggregateOf.encode_sound {a a' : Aggregate} {encoded : EncodedBatch}
    (ha : a.ForAggregates AggregateOf.IsSound) (h : a.encode = .ok (encoded, a')) :
    encoded = a.freshEncoding ∧ a'.calls = a.calls ∧ a'.anyPayable = a.anyPayable ∧
      a'.mixedFailure = a.mixedFailure ∧ a'.deployment = a.deployment ∧
      a'.ForAggregates AggregateOf.IsSound := by
  match a with
  | ⟨client, deployment, entries, anyPayable, mixedFailure, kept, request, options⟩ =>
    obtain ⟨hsound, hentries⟩ := AggregateOf.forAggregates_iff.mp ha
    rcases AggregateOf.encode_cases h with ⟨hmem, hcount, rfl⟩ |
      ⟨calls, entries', hbatch, hencoded, rfl⟩
    · exact ⟨hsound.encoded_eq _ hmem hcount, rfl, rfl, rfl, rfl, ha⟩
    · obtain ⟨rfl, hcalls, hentries'⟩ := Entry.batchCalls_sound hentries hbatch
      have hfresh := hencoded.trans (AggregateOf.encoded_eq_freshEncoding _ hcalls)
      refine ⟨hfresh, hcalls, rfl, rfl, rfl, ?_⟩
      rw [AggregateOf.ForAggregates]
      exact ⟨hsound.encoded hcalls rfl rfl (congrArg some hfresh), hentries'⟩

lemma Entry.batchCalls_sound {entries entries' : List (Entry QueuedCall)} {calls : List BatchCall}
    (he : Entry.ForAggregates AggregateOf.IsSound entries)
    (h : Entry.batchCalls entries = .ok (calls, entries')) :
    calls = Entry.calls entries ∧ Entry.calls entries' = Entry.calls entries ∧
      Entry.ForAggregates AggregateOf.IsSound entries' := by
  match entries with
  | [] =>
    obtain ⟨rfl, rfl⟩ := Entry.batchCalls_nil h
    exact ⟨by rw [Entry.calls], rfl, he⟩
  | ⟨handle, allowFailure, call⟩ :: entries =>
    rw [Entry.ForAggregates] at he
    obtain ⟨data, call', rest, rest', hcall, hrest, rfl, rfl⟩ := Entry.batchCalls_cons h
    obtain ⟨rfl, htarget, hvalue, hdata, hcall'⟩ := QueuedCall.calldata_sound he.1 hcall
    obtain ⟨rfl, hcalls, hentries'⟩ := Entry.batchCalls_sound he.2 hrest
    refine ⟨by rw [Entry.calls], ?_, ?_⟩
    · rw [Entry.calls, Entry.calls, htarget, hvalue, hdata, hcalls]
    · rw [Entry.ForAggregates]
      exact ⟨hcall', hentries'⟩

end

end ContractCalls
