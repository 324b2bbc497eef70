import ContractCalls.Proofs.Multicall.Encoding

/-!
# Building aggregates

The aggregates that a caller can make: calls and other aggregates are added one by one, and in
between an aggregate may be encoded and configured. What it keeps agrees with its calls at any time,
so that the request that is dispatched has the calldata and the value of its calls.
-/

namespace ContractCalls.AggregateOf

/-- An aggregate that comes about by the operations on aggregates. -/
inductive IsBuilt : Aggregate → Prop where
  | empty (client : Client) (deployment : Deployment) : IsBuilt (.empty client deployment)
  | addCall {a : Aggregate} (h : IsBuilt a) (call : ReadCall) (allowFailure : Bool) (handle : Nat) :
      IsBuilt (a.add (.single call) allowFailure handle)
  | addAggregate {a b : Aggregate} (h : IsBuilt a) (hb : IsBuilt b) (allowFailure : Bool)
      (handle : Nat) : IsBuilt (a.add (.nested b) allowFailure handle)
  | encode {a a' : Aggregate} {encoded : EncodedBatch} (h : IsBuilt a)
      (hencode : a.encode = .ok (encoded, a')) : IsBuilt a'
  | withInjectedCode {a : Aggregate} (h : IsBuilt a) : IsBuilt a.withInjectedCode
  | configure {a : Aggregate} (h : IsBuilt a) (request : CallRequest) (options : CallOptions) :
      IsBuilt { a with request, options }

/-! ### What is kept -/

lemma isSound_empty (client : Client) (deployment : Deployment) :
    (empty client deployment).IsSound where
  anyPayable_eq := by simp [empty, calls, Entry.calls]
  mixedFailure_eq := by simp [empty, calls, Entry.calls]
  count_le := by simp [empty]
  encoded_eq := by simp [empty]

lemma calls_add (a : Aggregate) (call : QueuedCall) (allowFailure : Bool) (handle : Nat) :
    (a.add call allowFailure handle).calls =
      a.calls ++ [⟨call.target, allowFailure, call.value, call.data⟩] := by
  simp [calls, add, Entry.calls_append, Entry.calls]

/-- The kept batch has fewer calls than the aggregate after one is added. -/
lemma IsSound.add {a : Aggregate} (h : a.IsSound) (call : QueuedCall) (allowFailure : Bool)
    (handle : Nat) : (a.add call allowFailure handle).IsSound where
  anyPayable_eq := by
    rw [calls_add, List.any_append, ← h.anyPayable_eq]
    simp [AggregateOf.add]
  mixedFailure_eq := by
    rw [calls_add]
    have hflags := h.mixedFailure_eq
    have hfirst : a.entries.head?.any (·.allowFailure != allowFailure) =
        a.calls.head?.any (·.allowFailure != allowFailure) := by
      rw [calls]
      cases a.entries with
      | nil => simp [Entry.calls]
      | cons e entries => simp [Entry.calls]
    simp only [AggregateOf.add, hfirst, hflags]
    -- the flag compares with the first call, which is the new one if there was none
    cases a.calls with
    | nil => simp
    | cons first rest =>
      simp only [List.cons_append, List.head?_cons, Option.any_some, List.any_cons, List.any_append,
        List.any_nil, Bool.or_false, Bool.or_assoc]
      rw [bne_comm (a := first.allowFailure) (b := allowFailure)]
  count_le e he := by
    have hle := h.count_le e he
    simp only [AggregateOf.add, List.length_append, List.length_singleton]
    omega
  encoded_eq e he hcount := by
    have hle := h.count_le e he
    simp only [AggregateOf.add, List.length_append, List.length_singleton] at hcount
    omega

lemma IsSound.congr {a b : Aggregate} (h : a.IsSound) (hentries : b.entries = a.entries)
    (hpayable : b.anyPayable = a.anyPayable) (hmixed : b.mixedFailure = a.mixedFailure)
    (hencoded : b.encoded = a.encoded) : b.IsSound := by
  have hcalls : b.calls = a.calls := congrArg Entry.calls hentries
  have hfresh := freshEncoding_congr hcalls hpayable hmixed
  refine ⟨?_, ?_, ?_, ?_⟩
  · rw [hpayable, hcalls, h.anyPayable_eq]
  · rw [hmixed, hcalls, h.mixedFailure_eq]
  · rw [hencoded, hentries]
    exact h.count_le
  · rw [hencoded, hentries, hfresh]
    exact h.encoded_eq

/-- However an aggregate was built, what is kept in it and in the aggregates within agrees with the
calls. -/
theorem IsBuilt.isSound {a : Aggregate} (h : a.IsBuilt) : a.ForAggregates IsSound := by
  induction h with
  | empty client deployment =>
    rw [forAggregates_iff]
    exact ⟨isSound_empty client deployment, by rw [AggregateOf.empty, Entry.ForAggregates]; trivial⟩
  | addCall _ call allowFailure handle ih =>
    rw [forAggregates_iff] at ih ⊢
    refine ⟨ih.1.add _ allowFailure handle, Entry.forAggregates_append.mpr ⟨ih.2, ?_⟩⟩
    simp [Entry.ForAggregates, QueuedCall.ForAggregates]
  | addAggregate _ _ allowFailure handle ih ihb =>
    rw [forAggregates_iff] at ih ⊢
    refine ⟨ih.1.add _ allowFailure handle, Entry.forAggregates_append.mpr ⟨ih.2, ?_⟩⟩
    simpa [Entry.ForAggregates, QueuedCall.ForAggregates] using ihb
  | encode _ hencode ih =>
    obtain ⟨-, -, -, -, -, hsound⟩ := encode_sound ih hencode
    exact hsound
  | withInjectedCode _ ih =>
    rw [forAggregates_iff] at ih ⊢
    exact ⟨ih.1.congr rfl rfl rfl rfl, ih.2⟩
  | configure _ request options ih =>
    rw [forAggregates_iff] at ih ⊢
    exact ⟨ih.1.congr rfl rfl rfl rfl, ih.2⟩

/-! ### The request -/

/-- A value is set that is not the total of the calls. -/
def HasWrongValue (a : Aggregate) : Prop :=
  a.request.value ≠ 0 ∧ a.request.value ≠ a.totalValue

/-- The request for the calls, with their total as its value. -/
def totalRequest (a : Aggregate) : CallRequest :=
  { a.request with target := a.deployment.address, value := a.totalValue, data := a.data }

lemma prepare_of_empty {a : Aggregate} (hentries : a.entries = []) : a.prepare = .error .empty := by
  rw [prepare, hentries]
  rfl

/-- What is asked is settled by the calls and the value that is set. -/
lemma prepare_of_not_empty {a : Aggregate} (ha : a.ForAggregates IsSound)
    (hentries : a.entries ≠ []) :
    (a.HasWrongValue ∧ a.prepare = .error (.valueMismatch a.request.value a.totalValue)) ∨
      (¬a.HasWrongValue ∧ a.prepare = .ok a.totalRequest) := by
  obtain ⟨⟨encoded, a'⟩, hencode⟩ := exists_encode a
  obtain ⟨rfl, -⟩ := encode_sound ha hencode
  have hempty : a.entries.isEmpty = false := by simpa using hentries
  have hprepare : a.prepare =
      if a.request.value != 0 && a.request.value != a.totalValue then
        .error (.valueMismatch a.request.value a.totalValue)
      else .ok a.totalRequest := by
    rw [prepare, totalRequest, data_eq, hempty, hencode]
    rfl
  rw [hprepare, HasWrongValue]
  simp only [Bool.and_eq_true, bne_iff_ne]
  split
  · next hwrong => exact .inl ⟨hwrong, rfl⟩
  · next hright => exact .inr ⟨hright, rfl⟩

/-- The request has the calldata and the value of the calls. -/
lemma prepare_eq {a : Aggregate} (ha : a.ForAggregates IsSound) (hentries : a.entries ≠ [])
    (hvalue : a.request.value = 0) : a.prepare = .ok { a.request with
      target := a.deployment.address, value := a.totalValue, data := a.data } := by
  rcases prepare_of_not_empty ha hentries with ⟨hwrong, -⟩ | ⟨-, hprepare⟩
  · exact absurd hvalue hwrong.1
  · exact hprepare

end ContractCalls.AggregateOf
