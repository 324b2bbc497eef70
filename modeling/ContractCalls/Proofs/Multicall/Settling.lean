import ContractCalls.Multicall.Dispatch
import ContractCalls.Proofs.Multicall.Await

/-!
# Settling an aggregate

Whatever the node answers, a dispatched aggregate settles each of its handles once, also those of
the aggregates within it, and each with what the answer says at its place.
-/

namespace ContractCalls

/-! ### Failing -/

mutual

/-- A failed aggregate settles each of its handles with the error. -/
lemma AggregateOf.fail_eq (err : ContractError) (a : Aggregate) :
    a.fail err = a.handles.map (⟨·, .error err⟩) := by
  match a with
  | ⟨_, _, entries, _, _, _, _, _⟩ =>
    rw [AggregateOf.fail, AggregateOf.handles]
    exact Entry.failAll_eq err entries

lemma Entry.failAll_eq (err : ContractError) (entries : List (Entry QueuedCall)) :
    Entry.failAll err entries = (Entry.handles entries).map (⟨·, .error err⟩) := by
  match entries with
  | [] => rw [Entry.failAll, Entry.handles, List.map_nil]
  | ⟨handle, _, .single _⟩ :: entries =>
    rw [Entry.failAll, Entry.handles, List.map_cons, Entry.failAll_eq err entries]
  | ⟨handle, _, .nested a⟩ :: entries =>
    rw [Entry.failAll, Entry.handles, List.map_append, List.map_cons, AggregateOf.fail_eq err a,
      Entry.failAll_eq err entries]

end

lemma QueuedCall.failWithin_eq (err : ContractError) (call : QueuedCall) :
    call.failWithin err = call.handlesWithin.map (⟨·, .error err⟩) := by
  cases call with
  | single call => rw [QueuedCall.failWithin, QueuedCall.handlesWithin, List.map_nil]
  | nested a => rw [QueuedCall.failWithin, QueuedCall.handlesWithin, AggregateOf.fail_eq]

/-! ### The handles that an answer settles -/

lemma resultsFor_eq_ok_iff {count : Nat} {data : Bytes} {results : List (Bool × Bytes)} :
    resultsFor count data = .ok results ↔
      decodeResults data = .ok results ∧ results.length = count := by
  rw [resultsFor]
  cases decodeResults data with
  | error err => simp
  | ok found =>
    simp only [Except.ite_error_eq_ok_iff, Except.ok.injEq]
    constructor
    · rintro ⟨hlength, rfl⟩
      exact ⟨rfl, hlength⟩
    · rintro ⟨rfl, hlength⟩
      exact ⟨hlength, rfl⟩

mutual

/-- An answer settles each handle of an aggregate once. -/
theorem AggregateOf.handles_distribute (data : Bytes) (a : Aggregate) :
    (a.distribute data).2.map (·.handle) = a.handles := by
  match a with
  | ⟨client, _, entries, _, _, _, _, _⟩ =>
    rw [AggregateOf.distribute, AggregateOf.handles]
    cases hresults : resultsFor entries.length data with
    | error err =>
      simp only [Entry.failAll_eq, List.map_map]
      exact List.map_id _
    | ok results =>
      exact Entry.handles_distribute client.errors results entries
        (resultsFor_eq_ok_iff.mp hresults).2

theorem Entry.handles_distribute (errors : ErrorRegistry) (results : List (Bool × Bytes))
    (entries : List (Entry QueuedCall)) (hlength : results.length = entries.length) :
    (Entry.distribute errors results entries).2.map (·.handle) = Entry.handles entries := by
  match results, entries with
  | [], [] => simp [Entry.distribute, Entry.handles]
  | [], _ :: _ | _ :: _, [] => simp at hlength
  | (success, data) :: results, ⟨handle, _, call⟩ :: entries =>
    have hrest := Entry.handles_distribute errors results entries (Nat.succ.inj hlength)
    have hcall := QueuedCall.handles_complete data call
    rw [Entry.distribute, Entry.handles_cons]
    cases success with
    | true => simp only [if_true, List.map_append, List.map_cons, hcall, hrest]
    | false =>
      have hfail :
          (call.failWithin (errors.decodeRevert data)).map (·.handle) = call.handlesWithin := by
        rw [QueuedCall.failWithin_eq, List.map_map]
        exact List.map_id _
      simp only [Bool.false_eq_true, if_false, List.map_append, List.map_cons, hfail, hrest]

theorem QueuedCall.handles_complete (data : Bytes) (call : QueuedCall) :
    (call.complete data).2.map (·.handle) = call.handlesWithin := by
  match call with
  | .single call => rw [QueuedCall.complete, QueuedCall.handlesWithin, List.map_nil]
  | .nested a =>
    rw [QueuedCall.complete, QueuedCall.handlesWithin]
    exact AggregateOf.handles_distribute data a

end

/-! ### What an answer says -/

/-- The error for an answer with a wrong number of results. -/
def countError (data : Bytes) (found expected : Nat) : ContractError :=
  .decoding data s!"multicall returned {found} results for {expected} calls" none

variable (out : Nat → Except ContractError Outcome)

mutual

/-- An aggregate with the answer `data` has the outcome `result`, and its handles and those of the
aggregates within it have the outcomes that `out` gives them. -/
inductive AggregateOf.Resolves :
    Aggregate → Bytes → Except ContractError AggregateOutput → Prop where
  | undecodable {a : Aggregate} {data : Bytes} {err : AbiError}
      (hdecode : decodeResults data = .error err)
      (hout : ∀ h ∈ a.handles, out h = .error (.ofAbi data err)) :
      AggregateOf.Resolves a data (.error (.ofAbi data err))
  | miscounted {a : Aggregate} {data : Bytes} {results : List (Bool × Bytes)}
      (hdecode : decodeResults data = .ok results) (hcount : results.length ≠ a.entries.length)
      (hout : ∀ h ∈ a.handles,
        out h = .error (countError data results.length a.entries.length)) :
      AggregateOf.Resolves a data (.error (countError data results.length a.entries.length))
  | results {a : Aggregate} {data : Bytes} {results : List (Bool × Bytes)}
      {output : AggregateOutput} (hdecode : decodeResults data = .ok results)
      (hcount : results.length = a.entries.length) (houtput : output.length = a.entries.length)
      (hentries : ∀ (i : Nat) (e : Entry QueuedCall) (result : Bool × Bytes)
        (item : Except ContractError Bytes), a.entries[i]? = some e → results[i]? = some result →
          output[i]? = some item → EntryResolves a.client.errors e result item) :
      AggregateOf.Resolves a data (.ok output)

/-- A call of an aggregate that knows `errors`, with the result at its place, has the outcome that
`out` gives to its handle; `item` is what the output holds for it. An aggregate within goes by the
errors that it knows itself. -/
inductive EntryResolves :
    ErrorRegistry → Entry QueuedCall → Bool × Bytes → Except ContractError Bytes → Prop where
  | failed {errors : ErrorRegistry} {handle : Nat} {allowFailure : Bool} {call : QueuedCall}
      {data : Bytes}
      (hout : ∀ h ∈ handle :: call.handlesWithin, out h = .error (errors.decodeRevert data)) :
      EntryResolves errors ⟨handle, allowFailure, call⟩ (false, data)
        (.error (errors.decodeRevert data))
  | single {errors : ErrorRegistry} {handle : Nat} {allowFailure : Bool} {call : ReadCall}
      {data : Bytes} (hout : out handle = (call.decoder data).map .values) :
      EntryResolves errors ⟨handle, allowFailure, .single call⟩ (true, data)
        ((out handle).map fun _ => data)
  | nested {errors : ErrorRegistry} {handle : Nat} {allowFailure : Bool} {a : Aggregate}
      {data : Bytes} {result : Except ContractError AggregateOutput}
      (h : AggregateOf.Resolves a data result) (hout : out handle = result.map .output) :
      EntryResolves errors ⟨handle, allowFailure, .nested a⟩ (true, data)
        ((out handle).map fun _ => data)

end

variable {out}

namespace AggregateOf.Resolves

variable {a : Aggregate} {data : Bytes} {result : Except ContractError AggregateOutput}

end AggregateOf.Resolves

mutual

/-- The settlements of an answer are what the answer says. -/
theorem AggregateOf.resolves_distribute (data : Bytes) (a : Aggregate)
    (hout : ∀ s ∈ (a.distribute data).2, out s.handle = s.outcome) :
    a.Resolves out data (a.distribute data).1 := by
  match a with
  | ⟨client, deployment, entries, anyPayable, mixedFailure, encoded, request, options⟩ =>
    rw [AggregateOf.distribute, resultsFor] at hout ⊢
    cases hdecode : decodeResults data with
    | error err =>
      simp only [hdecode, Entry.failAll_eq, List.forall_mem_map] at hout ⊢
      refine .undecodable hdecode ?_
      rw [AggregateOf.handles]
      exact hout
    | ok results =>
      by_cases hcount : results.length = entries.length
      · simp only [hdecode, hcount, if_true] at hout ⊢
        obtain ⟨houtput, hentries⟩ :=
          Entry.resolves_distribute client.errors results entries hcount hout
        exact .results hdecode hcount houtput hentries
      · simp only [hdecode, hcount, if_false, Entry.failAll_eq, List.forall_mem_map] at hout ⊢
        refine .miscounted hdecode hcount ?_
        rw [AggregateOf.handles]
        exact hout

theorem Entry.resolves_distribute (errors : ErrorRegistry) (results : List (Bool × Bytes))
    (entries : List (Entry QueuedCall)) (hcount : results.length = entries.length)
    (hout : ∀ s ∈ (Entry.distribute errors results entries).2, out s.handle = s.outcome) :
    (Entry.distribute errors results entries).1.length = entries.length ∧
      ∀ (i : Nat) (e : Entry QueuedCall) (result : Bool × Bytes)
        (item : Except ContractError Bytes), entries[i]? = some e → results[i]? = some result →
          (Entry.distribute errors results entries).1[i]? = some item →
            EntryResolves out errors e result item := by
  match results, entries with
  | [], [] => simp [Entry.distribute]
  | [], _ :: _ | _ :: _, [] => simp at hcount
  | (success, data) :: results, ⟨handle, allowFailure, call⟩ :: entries =>
    have hcount := Nat.succ.inj hcount
    rw [Entry.distribute] at hout ⊢
    simp only [List.forall_mem_append, List.forall_mem_cons] at hout
    obtain ⟨hwithin, hhandle, hrest⟩ := hout
    obtain ⟨hlength, hentries⟩ :=
      Entry.resolves_distribute errors results entries hcount hrest
    refine ⟨by simp only [List.length_cons, hlength], ?_⟩
    intro i e result item he hresult hitem
    cases i with
    | succ i => exact hentries i e result item he hresult hitem
    | zero =>
      simp only [List.getElem?_cons_zero, Option.some.injEq] at he hresult hitem
      subst he hresult hitem
      cases success with
      | true =>
        simp only [if_true] at hwithin hhandle ⊢
        rw [← hhandle]
        exact QueuedCall.resolves_complete errors data call hwithin hhandle
      | false =>
        simp only [Bool.false_eq_true, if_false, QueuedCall.failWithin_eq, List.forall_mem_map]
          at hwithin hhandle ⊢
        exact .failed (List.forall_mem_cons.mpr ⟨hhandle, hwithin⟩)

theorem QueuedCall.resolves_complete (errors : ErrorRegistry) (data : Bytes) (call : QueuedCall)
    {handle : Nat} {allowFailure : Bool}
    (hwithin : ∀ s ∈ (call.complete data).2, out s.handle = s.outcome)
    (hhandle : out handle = (call.complete data).1) :
    EntryResolves out errors ⟨handle, allowFailure, call⟩ (true, data)
      ((out handle).map fun _ => data) := by
  match call with
  | .single call => exact .single (by rw [hhandle, QueuedCall.complete])
  | .nested a =>
    rw [QueuedCall.complete] at hwithin hhandle
    exact .nested (AggregateOf.resolves_distribute data a hwithin) hhandle

end

end ContractCalls
