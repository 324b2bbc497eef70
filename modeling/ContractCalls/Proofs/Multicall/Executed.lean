import ContractCalls.Proofs.Except
import ContractCalls.Proofs.Multicall.Taking
import ContractCalls.Proofs.Revert

/-!
# Executed aggregates

When the simulation or the sending of an aggregate has succeeded, all its calls were executed. What
its handles give then, whoever asks them, when and how often.
-/

namespace ContractCalls

/-! ### Calls that are said not to be executed -/

/-- The decoder of a call may itself say that the call was not executed. -/
def ReadCall.MayDeny (call : ReadCall) : Prop :=
  ∃ data, call.decoder data = .error .notExecuted

mutual

/-- The calls that are no aggregates, also those in aggregates within, each with its handle. -/
def AggregateOf.singles : Aggregate → List (Nat × ReadCall)
  | ⟨_, _, entries, _, _, _, _, _⟩ => Entry.singles entries

def Entry.singles : List (Entry QueuedCall) → List (Nat × ReadCall)
  | [] => []
  | ⟨handle, _, .single call⟩ :: entries => (handle, call) :: Entry.singles entries
  | ⟨_, _, .nested a⟩ :: entries => AggregateOf.singles a ++ Entry.singles entries

end

/-- The calls behind a handle that are no aggregates, each with its handle. -/
def QueuedCall.singlesAt (handle : Nat) : QueuedCall → List (Nat × ReadCall)
  | .single call => [(handle, call)]
  | .nested a => a.singles

lemma Entry.singles_cons (handle : Nat) (allowFailure : Bool) (call : QueuedCall)
    (entries : List (Entry QueuedCall)) : Entry.singles (⟨handle, allowFailure, call⟩ :: entries) =
      call.singlesAt handle ++ Entry.singles entries := by
  cases call <;> simp [Entry.singles, QueuedCall.singlesAt]

lemma resultsFor_ne_notExecuted (count : Nat) (data : Bytes) :
    resultsFor count data ≠ .error .notExecuted := by
  rw [resultsFor]
  split
  · simp [ContractError.ofAbi]
  · split <;> simp

lemma AggregateOf.distribute_ne_notExecuted (data : Bytes) (a : Aggregate) :
    (a.distribute data).1 ≠ .error .notExecuted := by
  obtain ⟨_, _, entries, _, _, _, _, _⟩ := a
  have hne := resultsFor_ne_notExecuted entries.length data
  rw [distribute]
  cases hresults : resultsFor entries.length data with
  | error err => simpa [hresults] using hne
  | ok results => simp

/-- A settlement says that a call was not executed only if the decoder of this call does. -/
def Settlement.IsHonest (singles : List (Nat × ReadCall)) (t : Settlement) : Prop :=
  t.outcome = .error .notExecuted → ∃ call, (t.handle, call) ∈ singles ∧ call.MayDeny

namespace Settlement

variable {singles singles' : List (Nat × ReadCall)}

lemma IsHonest.mono {t : Settlement} (h : t.IsHonest singles) (hsubset : singles ⊆ singles') :
    t.IsHonest singles' := by
  intro hout
  obtain ⟨call, hcall, hdeny⟩ := h hout
  exact ⟨call, hsubset hcall, hdeny⟩

lemma isHonest_error {err : ContractError} (hne : err ≠ .notExecuted) (handle : Nat) :
    IsHonest singles ⟨handle, .error err⟩ :=
  fun hout => absurd (Except.error.inj hout) hne

lemma isHonest_single (handle : Nat) (call : ReadCall) (data : Bytes) :
    IsHonest [(handle, call)] ⟨handle, (call.decoder data).map .values⟩ := by
  intro hout
  refine ⟨call, List.mem_singleton_self _, data, ?_⟩
  cases hdecoder : call.decoder data with
  | error err =>
    rw [hdecoder] at hout
    cases hout
    rfl
  | ok values =>
    rw [hdecoder] at hout
    cases hout

end Settlement

mutual

/-- Whatever the answer to an aggregate, only the decoders of its calls can say that they were not
executed. -/
theorem AggregateOf.isHonest_distribute (data : Bytes) (a : Aggregate) :
    ∀ t ∈ (a.distribute data).2, t.IsHonest a.singles := by
  match a with
  | ⟨client, _, entries, _, _, _, _, _⟩ =>
    have hne := resultsFor_ne_notExecuted entries.length data
    rw [AggregateOf.distribute, AggregateOf.singles]
    cases hresults : resultsFor entries.length data with
    | error err =>
      rw [hresults, Ne, Except.error.injEq] at hne
      simp only [Entry.failAll_eq, List.forall_mem_map]
      exact fun h _ => Settlement.isHonest_error hne h
    | ok results => exact Entry.isHonest_distribute client.errors results entries

theorem Entry.isHonest_distribute (errors : ErrorRegistry) (results : List (Bool × Bytes))
    (entries : List (Entry QueuedCall)) :
    ∀ t ∈ (Entry.distribute errors results entries).2, t.IsHonest (Entry.singles entries) := by
  match results, entries with
  | [], _ | _ :: _, [] => simp [Entry.distribute]
  | (success, data) :: results, ⟨handle, _, call⟩ :: entries =>
    have hrest := Entry.isHonest_distribute errors results entries
    rw [Entry.distribute, Entry.singles_cons]
    have hsubset := List.subset_append_left (call.singlesAt handle) (Entry.singles entries)
    have hsubset' := List.subset_append_right (call.singlesAt handle) (Entry.singles entries)
    cases success with
    | true =>
      have hcall := QueuedCall.isHonest_complete data call handle
      rw [List.forall_mem_cons] at hcall
      simp only [if_true, List.forall_mem_append, List.forall_mem_cons]
      exact ⟨fun t ht => (hcall.2 t ht).mono hsubset, hcall.1.mono hsubset,
        fun t ht => (hrest t ht).mono hsubset'⟩
    | false =>
      have hne := errors.decodeRevert_ne_notExecuted data
      simp only [Bool.false_eq_true, if_false, QueuedCall.failWithin_eq, List.forall_mem_append,
        List.forall_mem_cons, List.forall_mem_map]
      exact ⟨fun h _ => Settlement.isHonest_error hne h, Settlement.isHonest_error hne handle,
        fun t ht => (hrest t ht).mono hsubset'⟩

theorem QueuedCall.isHonest_complete (data : Bytes) (call : QueuedCall) (handle : Nat) :
    ∀ t ∈ ⟨handle, (call.complete data).1⟩ :: (call.complete data).2,
      t.IsHonest (call.singlesAt handle) := by
  rw [List.forall_mem_cons]
  match call with
  | .single call =>
    rw [QueuedCall.complete, QueuedCall.singlesAt]
    exact ⟨Settlement.isHonest_single handle call data, by simp⟩
  | .nested a =>
    rw [QueuedCall.complete, QueuedCall.singlesAt]
    refine ⟨?_, AggregateOf.isHonest_distribute data a⟩
    have hne := a.distribute_ne_notExecuted data
    cases hresult : (a.distribute data).1 with
    | error err =>
      rw [hresult, Ne, Except.error.injEq] at hne
      simp only [hresult]
      exact Settlement.isHonest_error hne handle
    | ok output =>
      simp only [hresult]
      exact fun hout => by cases hout

end

/-! ### Executed aggregates -/

/-- What holds of all results of the second step holds of those of both steps. -/
lemma forall_run_bind {σ α β : Type} {x : StateM σ α} {f : α → StateM σ β} {p : β → Prop}
    (h : ∀ a s, p ((f a).run s).1) : ∀ s, p ((x >>= f).run s).1 :=
  fun s => h (x.run s).1 (x.run s).2

namespace AggregateOf

/-- A dispatch of the aggregate reads its settlements off an answer, if it succeeds. -/
def ReadsAnswer {α : Type} (a : Aggregate) (dispatched : Dispatched α) : Prop :=
  ∀ x, dispatched.result = .ok x → ∃ data, dispatched.settlements = (a.distribute data).2

variable {σ : Type} [Node σ]

lemma readsAnswer_call (a : Aggregate) : ∀ s : σ, a.ReadsAnswer (a.call.run s).1 := by
  rw [call]
  cases a.prepare with
  | error err =>
    intro s x hx
    cases hx
  | ok request =>
    refine forall_run_bind fun answer s => ?_
    cases answer with
    | error err =>
      intro x hx
      cases hx
    | ok data => exact fun _ _ => ⟨data, rfl⟩

lemma readsAnswer_send (a : Aggregate) (signer : Signer) :
    ∀ s : σ, a.ReadsAnswer ((a.send signer).run s).1 := by
  rw [send]
  cases a.prepare with
  | error err =>
    intro s x hx
    cases hx
  | ok request =>
    refine forall_run_bind fun answer s => ?_
    cases answer with
    | error err =>
      intro x hx
      cases hx
    | ok data =>
      refine forall_run_bind (fun sent s => ?_) s
      cases sent with
      | error err =>
        intro x hx
        cases hx
      | ok pending => exact fun _ _ => ⟨data, rfl⟩

/-- The simulation or the sending of an aggregate has succeeded, with settlements for its
handles. -/
inductive Executed (σ : Type) [Node σ] (a : Aggregate) : List Settlement → Prop where
  | called {s : σ} {output : AggregateOutput} (h : (a.call.run s).1.result = .ok output) :
      Executed σ a (a.call.run s).1.settlements
  | sent {s : σ} {signer : Signer} {pending : PendingInclusion Receipt}
      (h : ((a.send signer).run s).1.result = .ok pending) :
      Executed σ a ((a.send signer).run s).1.settlements

variable {a : Aggregate} {settlements : List Settlement}

lemma Executed.exists_data (h : a.Executed σ settlements) :
    ∃ data, settlements = (a.distribute data).2 := by
  cases h with
  | called h => exact a.readsAnswer_call _ _ h
  | sent h => exact a.readsAnswer_send _ _ _ h

/-- Before an aggregate is executed, its handles have nothing to take, however often and whenever
they were asked while it was built. After that, in whatever order they are asked, each of them gives
its outcome at the first take, and this outcome is not that its call was not executed, unless the
decoder of this very call says so. At every further take a handle says that its call was not
executed. -/
theorem Executed.take_once {hs : Handles} {as : List Aggregate}
    {log : List (Nat × Option (Except ContractError Outcome))} (hhistory : hs.History (a :: as) log)
    (hexecuted : a.Executed σ settlements) :
    (∀ x ∈ log, x.1 ∈ a.handles → x.2 = none) ∧
      settlements.map (·.handle) = a.handles ∧
      ∃ out : Nat → Except ContractError Outcome,
        (∀ t ∈ settlements, out t.handle = t.outcome) ∧
        (∀ h ∈ a.handles, out h = .error .notExecuted →
          ∃ call, (h, call) ∈ a.singles ∧ call.MayDeny) ∧
        ∀ (order : List Nat) (n h : Nat), order[n]? = some h → h ∈ a.handles →
          (((hs.settleAll settlements).closeAll a.handles).takeAll order).2[n]? =
            some (some (if h ∈ order.take n then .error .notExecuted else out h)) := by
  have hawait := hhistory.await
  obtain ⟨data, rfl⟩ := hexecuted.exists_data
  have hhandles := handles_distribute data a
  obtain ⟨out, hout⟩ := Handles.exists_outcomes (hhandles.symm ▸ hawait.nodup_handles)
  refine ⟨?_, hhandles, out, hout, ?_, ?_⟩
  · intro x hx hmem
    exact hhistory.isLogOf.none_of_waiting x hx (hawait.waiting_handles x.1 hmem)
  · intro h hh hdeny
    obtain ⟨t, ht, rfl⟩ := List.mem_map.mp (hhandles.symm ▸ hh)
    exact isHonest_distribute data a t ht (hout t ht ▸ hdeny)
  · intro order n h hn hh
    obtain ⟨t, ht, rfl⟩ := List.mem_map.mp (hhandles.symm ▸ hh)
    have hsettled := hawait.state_settleAll hhandles ht
    refine Handles.takeAll_of_settled ?_ hn
    rw [Handles.state_closeAll_of_not_waiting _ (hsettled ▸ HandleState.noConfusion), hsettled,
      hout t ht]

/-- A call and an aggregate, whose answer does not decode. One of the handles is asked while they
wait, and again twice when they are settled. -/
theorem Executed.take_once_nested :
    let client : Client := { chainId := 1, config := {}, errors := {} }
    let single := client.rawCall 7 [] fun _ => .ok []
    let within := (empty client { address := canonicalMulticall }).add (.single single) false 0
    let a := ((empty client { address := canonicalMulticall }).add (.single single) true 1).add
      (.nested within) true 2
    let hs : Handles := [.waiting, .waiting, .waiting]
    let results := [(true, []), (true, [0xff])]
    let chain : SimulatedChain := { contracts := [(canonicalMulticall, .returningResults results)] }
    let unread := ContractError.ofAbi [0xff] (.bufferOverrun 0 32 1)
    let settlements := (a.call.run chain).1.settlements
    hs.History [a] [(0, none)] ∧ a.Executed SimulatedChain settlements ∧
      settlements = [⟨1, .ok (.values [])⟩, ⟨0, .error unread⟩, ⟨2, .error unread⟩] ∧
      let taken := (((hs.settleAll settlements).closeAll a.handles).takeAll [2, 0, 0, 1]).2
      taken[0]? = some (some (.error unread)) ∧ taken[1]? = some (some (.error unread)) ∧
        taken[2]? = some (some (.error .notExecuted)) ∧
        taken[3]? = some (some (.ok (.values []))) := by
  intro client single within a hs results chain unread settlements
  have hwithin : Handles.History [.waiting] [within] [] :=
    .addCall (.empty .start client _) single false
  have hhistory : hs.History [a] [(0, none)] :=
    .take (.addAggregate (.addCall (.empty hwithin client _) single true) true) (Nat.zero_lt_succ 2)
  have hexecuted : a.Executed SimulatedChain settlements := by
    have hresult : ∃ output, (a.call.run chain).1.result = .ok output :=
      Except.exists_eq_ok_of_isSome (by decide +kernel)
    obtain ⟨output, hresult⟩ := hresult
    exact .called hresult
  have hhandles : a.handles = [1, 0, 2] := by
    simp [a, within, handles_add, QueuedCall.handlesWithin, handles_empty]
  have hgarbled : decodeResults [0xff] = .error (.bufferOverrun 0 32 1) := by decide +kernel
  have hresults : decodeResults (encodeResults results) = .ok results :=
    decodeResults_encodeResults (by decide +kernel)
  have hdistribute : (a.distribute (encodeResults results)).2 =
      [⟨1, .ok (.values [])⟩, ⟨0, .error unread⟩, ⟨2, .error unread⟩] := by
    simp [a, within, single, results, add, empty, distribute, resultsFor, hresults,
      Entry.distribute, QueuedCall.complete, hgarbled, Entry.failAll, Except.map, Client.rawCall,
      unread]
  have hbuilt : a.IsBuilt :=
    .addAggregate (.addCall (.empty _ _) _ _ _) (.addCall (.empty _ _) _ _ _) _ _
  have hsettlements : settlements =
      [⟨1, .ok (.values [])⟩, ⟨0, .error unread⟩, ⟨2, .error unread⟩] := by
    change (a.call.run chain).1.settlements = _
    rw [call_of_returningResults hbuilt.isSound (by simp [a, add]) rfl rfl, settled, hdistribute]
  obtain ⟨-, -, out, hout, -, htake⟩ := Executed.take_once hhistory hexecuted
  rw [hsettlements] at hout
  simp only [List.forall_mem_cons] at hout
  obtain ⟨hout1, hout0, hout2, -⟩ := hout
  refine ⟨hhistory, hexecuted, hsettlements, ?_, ?_, ?_, ?_⟩
  · exact hout2 ▸ htake [2, 0, 0, 1] 0 2 rfl (by simp [hhandles])
  · exact hout0 ▸ htake [2, 0, 0, 1] 1 0 rfl (by simp [hhandles])
  · exact htake [2, 0, 0, 1] 2 0 rfl (by simp [hhandles])
  · exact hout1 ▸ htake [2, 0, 0, 1] 3 1 rfl (by simp [hhandles])

/-- A call that was executed, as its first take shows, is said not to have been executed at the
second. -/
theorem exists_take_of_executed :
    let client : Client := { chainId := 1, config := {}, errors := {} }
    let single := client.rawCall 7 [] fun _ => .ok []
    let a := (empty client { address := canonicalMulticall }).add (.single single) false 0
    let hs : Handles := [.waiting]
    let chain : SimulatedChain :=
      { contracts := [(canonicalMulticall, .returningResults [(true, [])])] }
    let dispatched := (a.call.run chain).1
    (∃ output, dispatched.result = .ok output) ∧
      (((hs.settleAll dispatched.settlements).closeAll a.handles).takeAll [0, 0]).2 =
        [some (.ok (.values [])), some (.error .notExecuted)] := by
  intro client single a hs chain dispatched
  have hresults : resultsFor 1 (encodeResults [(true, [])]) = .ok [(true, [])] :=
    resultsFor_eq_ok_iff.mpr ⟨by decide +kernel, rfl⟩
  have hdistribute : a.distribute (encodeResults [(true, [])]) =
      (.ok [.ok []], [⟨0, .ok (.values [])⟩]) := by
    change distribute _ ⟨_, _, [⟨0, false, .single single⟩], _, _, _, _, _⟩ = _
    rw [distribute, List.length_singleton, hresults]
    rfl
  have hbuilt : a.IsBuilt := .addCall (.empty client _) single false 0
  have hdispatched : dispatched = ⟨.ok [.ok []], [⟨0, .ok (.values [])⟩]⟩ := by
    change (a.call.run chain).1 = _
    rw [call_of_returningResults hbuilt.isSound (by simp [a, add]) rfl rfl, settled, hdistribute]
    rfl
  have hhandles : a.handles = [0] := by
    simp [a, handles_add, QueuedCall.handlesWithin, handles_empty]
  rw [hdispatched, hhandles]
  exact ⟨⟨_, rfl⟩, rfl⟩

end AggregateOf

end ContractCalls
