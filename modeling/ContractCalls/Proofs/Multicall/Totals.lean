import ContractCalls.Proofs.Multicall.Asking
import ContractCalls.Proofs.Multicall.OneByOne

/-!
# The values that are sent along

A request for an aggregate comes with the sum of all values in it, and its calldata say the like for
each aggregate within. The sums are exact as long as they fit 256 bits. Sums that do not are sent as
well, as the largest value.
-/

namespace ContractCalls

open AggregateOf

/-! ### What requests say of values -/

mutual

/-- A call of a batch comes with what `total` makes of the values in a queued call, and so does all
that is in its calldata. -/
def QueuedCall.TellsTotals (total : Nat → Nat) (said : BatchCall) : QueuedCall → Prop
  | .single call => said.value.toNat = total call.request.value.toNat
  | .nested a => AggregateOf.TellsTotals total said.value said.data a

/-- A value and calldata say of an aggregate, and of all within, what `total` makes of the values of
the single calls in it. -/
def AggregateOf.TellsTotals (total : Nat → Nat) (value : Word) (data : Bytes) : Aggregate → Prop
  | ⟨_, _, entries, _, _, _, _, _⟩ =>
    value.toNat = total (Entry.leafSum entries) ∧
      ∃ batch, Batch.decode? data = some batch ∧ Entry.TellTotals total batch.calls entries

def Entry.TellTotals (total : Nat → Nat) : List BatchCall → List (Entry QueuedCall) → Prop
  | [], [] => True
  | said :: calls, ⟨_, _, call⟩ :: entries =>
    call.TellsTotals total said ∧ Entry.TellTotals total calls entries
  | _, _ => False

end

mutual

/-- It matters only what becomes of sums that are there. -/
lemma QueuedCall.TellsTotals.congr {total total' : Nat → Nat} {said : BatchCall} {call : QueuedCall}
    (h : call.TellsTotals total said) (htotal : ∀ n ≤ call.leafSum, total n = total' n) :
    call.TellsTotals total' said := by
  match call with
  | .single call =>
    rw [QueuedCall.TellsTotals] at h ⊢
    rw [QueuedCall.leafSum] at htotal
    rw [h, htotal _ le_rfl]
  | .nested a =>
    rw [QueuedCall.TellsTotals] at h ⊢
    rw [QueuedCall.leafSum] at htotal
    exact AggregateOf.TellsTotals.congr h htotal

lemma AggregateOf.TellsTotals.congr {total total' : Nat → Nat} {value : Word} {data : Bytes}
    {a : Aggregate} (h : a.TellsTotals total value data)
    (htotal : ∀ n ≤ a.leafSum, total n = total' n) : a.TellsTotals total' value data := by
  match a with
  | ⟨_, _, entries, _, _, _, _, _⟩ =>
    rw [AggregateOf.TellsTotals] at h ⊢
    rw [AggregateOf.leafSum] at htotal
    obtain ⟨hvalue, batch, hbatch, hcalls⟩ := h
    exact ⟨hvalue.trans (htotal _ le_rfl), batch, hbatch, Entry.TellTotals.congr hcalls htotal⟩

lemma Entry.TellTotals.congr {total total' : Nat → Nat} {calls : List BatchCall}
    {entries : List (Entry QueuedCall)} (h : Entry.TellTotals total calls entries)
    (htotal : ∀ n ≤ Entry.leafSum entries, total n = total' n) :
    Entry.TellTotals total' calls entries := by
  match calls, entries with
  | [], [] =>
    rw [Entry.TellTotals]
    trivial
  | [], _ :: _ | _ :: _, [] => simp [Entry.TellTotals] at h
  | said :: calls, ⟨_, _, call⟩ :: entries =>
    rw [Entry.TellTotals] at h ⊢
    rw [Entry.leafSum] at htotal
    exact ⟨QueuedCall.TellsTotals.congr h.1 fun n hn => htotal n (by omega),
      Entry.TellTotals.congr h.2 fun n hn => htotal n (by omega)⟩

end

mutual

lemma QueuedCall.tellsTotals {call : QueuedCall} (hsound : call.ForAggregates IsSound)
    (hlen : call.data.length < Size.limit) (allowFailure : Bool) :
    call.TellsTotals capped ⟨call.target, allowFailure, call.value, call.data⟩ := by
  match call with
  | .single call =>
    rw [QueuedCall.TellsTotals, QueuedCall.value, capped_of_lt call.request.value.isLt]
  | .nested a =>
    rw [QueuedCall.ForAggregates] at hsound
    rw [QueuedCall.data] at hlen
    rw [QueuedCall.TellsTotals, QueuedCall.value, QueuedCall.data]
    exact AggregateOf.tellsTotals hsound hlen

/-- The total and the calldata of an aggregate say the sums as far as they fit. -/
lemma AggregateOf.tellsTotals {a : Aggregate} (hsound : a.ForAggregates IsSound)
    (hlen : a.data.length < Size.limit) : a.TellsTotals capped a.totalValue a.data := by
  match a with
  | ⟨client, deployment, entries, anyPayable, mixedFailure, encoded, request, options⟩ =>
    rw [AggregateOf.ForAggregates] at hsound
    have hdecode := AggregateOf.decode?_data hsound.1 hlen
    -- what bounds the calldata of the batch bounds those of its calls
    have hshort := Batch.length_data_lt hdecode
    rw [AggregateOf.TellsTotals]
    refine ⟨?_, _, hdecode,
      Entry.tellTotals hsound.2 fun call hcall => (hshort call hcall).trans hlen⟩
    rw [AggregateOf.toNat_totalValue, AggregateOf.leafSum]

lemma Entry.tellTotals {entries : List (Entry QueuedCall)}
    (hsound : Entry.ForAggregates IsSound entries)
    (hlen : ∀ call ∈ Entry.calls entries, call.data.length < Size.limit) :
    Entry.TellTotals capped (Entry.calls entries) entries := by
  match entries with
  | [] =>
    rw [Entry.calls, Entry.TellTotals]
    trivial
  | ⟨_, allowFailure, call⟩ :: entries =>
    rw [Entry.ForAggregates] at hsound
    rw [Entry.calls, List.forall_mem_cons] at hlen
    rw [Entry.calls, Entry.TellTotals]
    exact ⟨QueuedCall.tellsTotals hsound.1 hlen.1 allowFailure, Entry.tellTotals hsound.2 hlen.2⟩

end

/-! ### What is sent -/

namespace AggregateOf

variable {a : Aggregate}

/-- The sums are exact if they fit, and only then. -/
lemma tellsTotals_id_iff (hsound : a.ForAggregates IsSound) (hlen : a.data.length < Size.limit) :
    a.TellsTotals id a.totalValue a.data ↔ a.leafSum < 2 ^ 256 := by
  constructor
  · intro h
    cases a
    rw [TellsTotals] at h
    rw [leafSum, ← id_eq (Entry.leafSum _), ← h.1]
    exact BitVec.isLt _
  · intro hsum
    exact (tellsTotals hsound hlen).congr fun n hn => capped_of_lt (hn.trans_lt hsum)

/-- What a dispatch says of the values. No sum keeps it from being made unless another value was
set, and all requests say the sums as far as they fit. -/
structure AsksForTotals (a : Aggregate) (signer : Signer) (log : List Exchange) : Prop where
  asked_iff : log ≠ [] ↔
    a.entries ≠ [] ∧ (a.request.value = 0 ∨ a.request.value.toNat = capped a.leafSum)
  tells : ∀ x ∈ log, ∃ r, x.Takes signer r ∧ a.TellsTotals capped r.value r.data ∧
    (a.TellsTotals id r.value r.data ↔ a.leafSum < 2 ^ 256)

lemma hasWrongValue_iff : a.HasWrongValue ↔
    ¬(a.request.value = 0 ∨ a.request.value.toNat = capped a.leafSum) := by
  rw [HasWrongValue, not_or, ← toNat_totalValue, BitVec.toNat_inj]

lemma Dispatching.asksForTotals {α : Type} {signer : Signer} {log : List Exchange}
    {result : Except AggregateError α} (hsound : a.ForAggregates IsSound)
    (hlen : a.data.length < Size.limit) (h : a.Dispatching signer log result) :
    a.AsksForTotals signer log := by
  cases h with
  | empty hentries => exact ⟨by simp [hentries], by simp⟩
  | refused hentries hwrong =>
    rw [hasWrongValue_iff] at hwrong
    exact ⟨iff_of_false (not_not.mpr rfl) fun h => hwrong h.2, by simp⟩
  | asked hentries hright hlog htakes =>
    rw [hasWrongValue_iff, not_not] at hright
    refine ⟨iff_of_true hlog ⟨hentries, hright⟩, fun x hx => ?_⟩
    obtain ⟨sender, hx⟩ := htakes x hx
    exact ⟨_, hx, tellsTotals hsound hlen, tellsTotals_id_iff hsound hlen⟩

variable {σ : Type} [Node σ]

/-- Whatever is asked of the node for an aggregate, to simulate it and to send it, comes with the
sum of the values in it, and says the sums for all aggregates within, as far as they fit 256 bits.
Sums that do not fit are sent as the largest value. -/
theorem records_totals [LawfulNode σ] (signer : Signer) (ha : a.IsBuilt)
    (hlen : a.data.length < Size.limit) :
    Records (a.call : StateM (Recorded σ) (Dispatched AggregateOutput))
      (a.call : StateM σ (Dispatched AggregateOutput)) (fun log _ => a.AsksForTotals signer log) ∧
    Records (a.send signer : StateM (Recorded σ) (Dispatched (PendingInclusion Receipt)))
      (a.send signer : StateM σ (Dispatched (PendingInclusion Receipt)))
      (fun log _ => a.AsksForTotals signer log) :=
  ⟨(records_call ha.isSound signer).imp fun _ _ h => h.asksForTotals ha.isSound hlen,
    (records_send_dispatching ha.isSound signer).imp fun _ _ h => h.asksForTotals ha.isSound hlen⟩

/-- The values of an aggregate within fill 256 bits, and together with one more they do not fit. -/
theorem records_totals_overflow :
    let client : Client := { chainId := 1, config := {}, errors := {} }
    let signer : Signer := .refusing 1 "no key"
    let paying (value : Word) : ReadCall :=
      { client.rawCall 7 [] (fun _ => .ok []) with request.value := value }
    let within :=
      (empty client { address := canonicalMulticall }).add (.single (paying (-1))) true 0
    let a := ((empty client { address := canonicalMulticall }).add (.nested within) false 1).add
      (.single (paying 1)) false 2
    a.IsBuilt ∧ a.data.length < Size.limit ∧ a.leafSum = 2 ^ 256 ∧
      let called := (a.call : StateM (Recorded SimulatedChain) _).run ⟨{}, []⟩
      let sent := (a.send signer : StateM (Recorded SimulatedChain) _).run ⟨{}, []⟩
      a.AsksForTotals signer called.2.exchanges ∧ a.AsksForTotals signer sent.2.exchanges := by
  intro client signer paying within a
  have hwithin : within.IsBuilt := .addCall (.empty _ _) _ _ _
  have hbuilt : a.IsBuilt := .addCall (.addAggregate (.empty _ _) hwithin _ _) _ _ _
  have hlen : a.data.length < Size.limit := by
    simp only [a, within, paying, add, empty, data, Entry.calls, QueuedCall.data, QueuedCall.target,
      QueuedCall.value, totalValue, Entry.sumValues, List.nil_append, List.cons_append,
      Client.rawCall, Client.newRequest]
    decide +kernel
  have hsum : a.leafSum = 2 ^ 256 := by
    simp [a, within, paying, add, empty, leafSum, Entry.leafSum, QueuedCall.leafSum]
  obtain ⟨hcall, hsend⟩ := records_totals (σ := SimulatedChain) signer hbuilt hlen
  obtain ⟨log, hcalled, hlog⟩ := hcall ⟨{}, []⟩
  obtain ⟨log', hsent, hlog'⟩ := hsend ⟨{}, []⟩
  refine ⟨hbuilt, hlen, hsum, ?_⟩
  rw [hcalled, hsent]
  exact ⟨hlog, hlog'⟩

/-- An aggregate whose values do not fit is simulated with the largest value. -/
lemma records_call_of_overflow (signer : Signer) (ha : a.IsBuilt)
    (hentries : a.entries ≠ []) (hvalue : a.request.value = 0) (hsum : 2 ^ 256 ≤ a.leafSum) :
    Records (a.call : StateM (Recorded σ) (Dispatched AggregateOutput))
      (a.call : StateM σ (Dispatched AggregateOutput))
      fun log _ => log ≠ [] ∧ ∀ x ∈ log, ∃ r, x.Takes signer r ∧ r.value = -1 := by
  have htotal : a.totalValue = -1 := by
    apply BitVec.eq_of_toNat_eq
    rw [toNat_totalValue, capped, min_eq_right (by omega)]
    rfl
  refine (records_call ha.isSound signer).imp fun log called h => ?_
  obtain ⟨hlog, htakes⟩ := h.takes_totalRequest hentries fun hwrong => hwrong.1 hvalue
  refine ⟨hlog, fun x hx => ?_⟩
  obtain ⟨sender, hx⟩ := htakes x hx
  exact ⟨_, hx, htotal⟩

/-- Values that do not fit together are dispatched all the same. -/
theorem exists_call_of_overflow :
    let client : Client := { chainId := 1, config := {}, errors := {} }
    let paying (value : Word) : ReadCall :=
      { client.rawCall 7 [] (fun _ => .ok []) with request.value := value }
    let a :=
      (((empty client { address := canonicalMulticall }).add (.single (paying (-1))) false 0).add
        (.single (paying (-1))) false 1).add (.single (paying 1)) false 2
    let called := (a.call : StateM (Recorded SimulatedChain) _).run ⟨{}, []⟩
    a.IsBuilt ∧ 2 ^ 256 ≤ a.leafSum ∧ called.2.exchanges ≠ [] ∧
      ∀ x ∈ called.2.exchanges, ∃ r, x.Takes (.refusing 1 "no key") r ∧ r.value = -1 := by
  intro client paying a
  have hbuilt : a.IsBuilt := .addCall (.addCall (.addCall (.empty _ _) _ _ _) _ _ _) _ _ _
  have hentries : a.entries ≠ [] := by simp [a, add]
  have hsum : 2 ^ 256 ≤ a.leafSum := by
    simp [a, paying, add, empty, leafSum, Entry.leafSum, QueuedCall.leafSum]
  have hrecords := records_call_of_overflow (σ := SimulatedChain) (.refusing 1 "no key") hbuilt
    hentries rfl hsum
  obtain ⟨log, hrun, hlog⟩ := hrecords ⟨{}, []⟩
  refine ⟨hbuilt, hsum, ?_⟩
  rw [hrun]
  exact hlog

end AggregateOf

end ContractCalls
