import ContractCalls.Proofs.Multicall.Dispatch

/-!
# Taking outcomes

Handles may be asked for their outcomes at any time, in any order and any number of times. While a
handle waits there is nothing to take. Once its aggregate was executed, the first take gives the
outcome. Every further one says that the call was not executed, as it does for a handle whose
aggregate is gone.
-/

namespace ContractCalls

namespace Handles

variable {hs : Handles} {h i : Nat} {order : List Nat} {outcome : Except ContractError Outcome}

/-- Takes the outcomes of handles in the given order. -/
def takeAll : Handles → List Nat → Handles × List (Option (Except ContractError Outcome))
  | hs, [] => (hs, [])
  | hs, h :: order =>
    let (hs, taken) := hs.tryTake h
    let (hs, rest) := hs.takeAll order
    (hs, taken :: rest)

/-! ### Single takes -/

lemma state_tryTake_of_ne (hne : i ≠ h) : (hs.tryTake h).1.state i = hs.state i := by
  rw [tryTake]
  split
  · rfl
  · exact state_set_of_ne hne _
  · rfl

lemma state_tryTake_of_waiting (hwaiting : hs.state h = .waiting) : (hs.tryTake h).1 = hs := by
  rw [tryTake, hwaiting]

lemma state_tryTake_of_not_waiting (hnot : hs.state h ≠ .waiting) :
    (hs.tryTake h).1.state h = .closed := by
  rw [tryTake]
  split
  · next hwaiting => exact absurd hwaiting hnot
  · next outcome _ =>
    rw [state, List.getD_eq_getElem?_getD, List.getElem?_set_self']
    cases hs[h]? <;> rfl
  · next hclosed => exact hclosed

lemma state_tryTake_of_closed (hclosed : hs.state i = .closed) :
    (hs.tryTake h).1.state i = .closed := by
  by_cases hne : i = h
  · subst hne
    exact state_tryTake_of_not_waiting (hclosed ▸ HandleState.noConfusion)
  · rw [state_tryTake_of_ne hne, hclosed]

/-! ### Takes in any order -/

/-- A closed handle says that its call was not executed, however often it is asked. -/
lemma takeAll_of_closed {n : Nat} (hclosed : hs.state h = .closed) (hn : order[n]? = some h) :
    (hs.takeAll order).2[n]? = some (some (.error .notExecuted)) := by
  induction order generalizing hs n with
  | nil => simp at hn
  | cons i order ih =>
    cases n with
    | zero =>
      obtain rfl : i = h := by simpa using hn
      simp [takeAll, tryTake, hclosed]
    | succ n => exact ih (state_tryTake_of_closed hclosed) hn

/-- A settled handle gives its outcome at the first take, and says at every further one that its
call was not executed. -/
lemma takeAll_of_settled {n : Nat} (hsettled : hs.state h = .settled outcome)
    (hn : order[n]? = some h) : (hs.takeAll order).2[n]? =
      some (some (if h ∈ order.take n then .error .notExecuted else outcome)) := by
  induction order generalizing hs n with
  | nil => simp at hn
  | cons i order ih =>
    cases n with
    | zero =>
      obtain rfl : i = h := by simpa using hn
      simp [takeAll, tryTake, hsettled]
    | succ n =>
      by_cases hne : h = i
      · subst hne
        rw [List.take_succ_cons, if_pos List.mem_cons_self]
        have hnot : hs.state h ≠ .waiting := hsettled ▸ HandleState.noConfusion
        change ((hs.tryTake h).1.takeAll order).2[n]? = _
        exact takeAll_of_closed (state_tryTake_of_not_waiting hnot) hn
      · have hmem : h ∈ (i :: order).take (n + 1) ↔ h ∈ order.take n := by simp [hne]
        simp only [hmem]
        exact ih ((state_tryTake_of_ne hne).trans hsettled) hn

/-! ### Handles that cease to wait -/

/-- The table `hs'` has come about from `hs`: there may be new handles, and none waits again. -/
structure Follows (hs' hs : Handles) : Prop where
  length_le : hs.length ≤ hs'.length
  waited : ∀ i < hs.length, hs'.state i = .waiting → hs.state i = .waiting

lemma Follows.refl (hs : Handles) : hs.Follows hs :=
  ⟨le_rfl, fun _ _ hwaiting => hwaiting⟩

lemma Follows.trans {hs' hs'' : Handles} (h : hs'.Follows hs) (h' : hs''.Follows hs') :
    hs''.Follows hs :=
  ⟨h.length_le.trans h'.length_le, fun i hi hwaiting =>
    h.waited i hi (h'.waited i (hi.trans_le h.length_le) hwaiting)⟩

lemma follows_add : hs.add.1.Follows hs where
  length_le := by simp [add]
  waited i hi hwaiting := by rwa [state, add, List.getD_append _ _ _ _ hi] at hwaiting

/-- A handle that is set to something else than waiting. -/
lemma follows_set {state : HandleState} (hne : state ≠ .waiting) : Follows (hs.set h state) hs where
  length_le := by rw [List.length_set]
  waited i hi hwaiting := by
    by_cases heq : i = h
    · subst heq
      rw [Handles.state, List.getD_eq_getElem _ _ (by rwa [List.length_set]),
        List.getElem_set_self] at hwaiting
      exact absurd hwaiting hne
    · rwa [state_set_of_ne heq] at hwaiting

lemma follows_tryTake : (hs.tryTake h).1.Follows hs := by
  rw [tryTake]
  split
  · exact .refl hs
  · exact follows_set HandleState.noConfusion
  · exact .refl hs

lemma follows_settleAll (settlements : List Settlement) :
    (hs.settleAll settlements).Follows hs := by
  induction settlements generalizing hs with
  | nil => exact .refl hs
  | cons s settlements ih =>
    refine Follows.trans ?_ ih
    rw [settle]
    split
    · exact follows_set HandleState.noConfusion
    · exact .refl hs

lemma follows_closeAll (handles : List Nat) : (hs.closeAll handles).Follows hs := by
  induction handles generalizing hs with
  | nil => exact .refl hs
  | cons h handles ih =>
    refine Follows.trans ?_ ih
    rw [close]
    split
    · exact follows_set HandleState.noConfusion
    · exact .refl hs

end Handles

/-! ### Histories -/

/-- How the aggregates `as` that are being built have come about, and the handles of all aggregates:
calls and aggregates were added to aggregates, aggregates were encoded and configured, and others
have gone, with some of their handles settled or none. Outcomes may have been taken in between;
`log` has the handles that were asked and what they gave. -/
inductive Handles.History :
    Handles → List Aggregate → List (Nat × Option (Except ContractError Outcome)) → Prop where
  | start : History [] [] []
  | empty {hs as log} (h : History hs as log) (client : Client) (deployment : Deployment) :
      History hs (.empty client deployment :: as) log
  | addCall {hs a as log} (h : History hs (a :: as) log) (call : ReadCall) (allowFailure : Bool) :
      History hs.add.1 (a.add (.single call) allowFailure hs.add.2 :: as) log
  | addAggregate {hs a b as log} (h : History hs (a :: b :: as) log) (allowFailure : Bool) :
      History hs.add.1 (a.add (.nested b) allowFailure hs.add.2 :: as) log
  | encode {hs a a' as log encoded} (h : History hs (a :: as) log)
      (hencode : a.encode = .ok (encoded, a')) : History hs (a' :: as) log
  | withInjectedCode {hs a as log} (h : History hs (a :: as) log) :
      History hs (a.withInjectedCode :: as) log
  | configure {hs a as log} (h : History hs (a :: as) log) (request : CallRequest)
      (options : CallOptions) : History hs ({ a with request, options } :: as) log
  | reorder {hs as bs log} (h : History hs as log) (hperm : bs.Perm as) : History hs bs log
  | leave {hs a as log} (h : History hs (a :: as) log) {settlements : List Settlement}
      (hsettles : ∀ t ∈ settlements, t.handle ∈ a.handles) :
      History ((hs.settleAll settlements).closeAll a.handles) as log
  | take {hs as log} (h : History hs as log) {i : Nat} (hi : i < hs.length) :
      History (hs.tryTake i).1 as (log ++ [(i, (hs.tryTake i).2)])

/-- Its calls alone say which handles an aggregate has. -/
lemma Handles.Await.congr {hs : Handles} {a b : Aggregate} {as : List Aggregate}
    (h : hs.Await (a :: as)) (hentries : b.entries = a.entries) : hs.Await (b :: as) :=
  h.of_perm (by rw [List.flatMap_cons, List.flatMap_cons, AggregateOf.handles_eq,
    AggregateOf.handles_eq, hentries])

/-- An aggregate that goes leaves the handles of the others as they are. -/
lemma Handles.Await.leave {hs : Handles} {a : Aggregate} {as : List Aggregate}
    (h : hs.Await (a :: as)) {settlements : List Settlement}
    (hsettles : ∀ t ∈ settlements, t.handle ∈ a.handles) :
    ((hs.settleAll settlements).closeAll a.handles).Await as := by
  obtain ⟨hnodup, hwaiting⟩ := h
  rw [List.flatMap_cons] at hnodup hwaiting
  obtain ⟨-, hnodup, hdisjoint⟩ := List.nodup_append.mp hnodup
  refine ⟨hnodup, ?_⟩
  intro i hi
  have hnot : i ∉ a.handles := fun hmem => hdisjoint i hmem i hi rfl
  rw [state_closeAll_of_not_mem hnot, state_settleAll_of_not_mem]
  · exact hwaiting i (List.mem_append_right _ hi)
  · intro hmem
    obtain ⟨t, ht, rfl⟩ := List.mem_map.mp hmem
    exact hnot (hsettles t ht)

/-- There is nothing to take while handles wait. -/
lemma Handles.Await.take {hs : Handles} {as : List Aggregate} (h : hs.Await as) (i : Nat) :
    (hs.tryTake i).1.Await as := by
  refine ⟨h.nodup, ?_⟩
  intro j hj
  by_cases hne : j = i
  · subst hne
    rw [state_tryTake_of_waiting (h.waiting j hj)]
    exact h.waiting j hj
  · rw [state_tryTake_of_ne hne]
    exact h.waiting j hj

namespace Handles.History

variable {hs : Handles} {as : List Aggregate}
  {log : List (Nat × Option (Except ContractError Outcome))}

/-- Whatever was taken in between, the handles of aggregates that are being built wait. -/
lemma await (h : History hs as log) : hs.Await as := by
  induction h with
  | start => exact ⟨by simp, by simp⟩
  | empty _ client deployment ih => exact ih.empty client deployment
  | addCall _ call allowFailure ih => exact ih.addCall call allowFailure
  | addAggregate _ allowFailure ih => exact ih.addAggregate allowFailure
  | encode _ hencode ih => exact ih.encode hencode
  | withInjectedCode _ ih | configure _ _ _ ih => exact ih.congr rfl
  | reorder _ hperm ih => exact ih.of_perm (hperm.flatMap_right _)
  | leave _ hsettles ih => exact ih.leave hsettles
  | take _ _ ih => exact ih.take _

/-- Only handles that there are have been asked, and those that still wait have given nothing. -/
structure IsLogOf (hs : Handles) (log : List (Nat × Option (Except ContractError Outcome))) :
    Prop where
  lt_length : ∀ x ∈ log, x.1 < hs.length
  none_of_waiting : ∀ x ∈ log, hs.state x.1 = .waiting → x.2 = none

lemma IsLogOf.of_follows {hs' : Handles} (h : IsLogOf hs log) (hfollows : hs'.Follows hs) :
    IsLogOf hs' log where
  lt_length x hx := (h.lt_length x hx).trans_le hfollows.length_le
  none_of_waiting x hx hwaiting :=
    h.none_of_waiting x hx (hfollows.waited x.1 (h.lt_length x hx) hwaiting)

lemma IsLogOf.take (h : IsLogOf hs log) {i : Nat} (hi : i < hs.length) :
    IsLogOf (hs.tryTake i).1 (log ++ [(i, (hs.tryTake i).2)]) := by
  obtain ⟨hlength, hnone⟩ := h.of_follows (follows_tryTake (h := i))
  refine ⟨?_, ?_⟩
  · rw [List.forall_mem_append, List.forall_mem_singleton]
    exact ⟨hlength, hi.trans_le follows_tryTake.length_le⟩
  · rw [List.forall_mem_append, List.forall_mem_singleton]
    refine ⟨hnone, fun hwaiting => ?_⟩
    rw [tryTake, follows_tryTake.waited i hi hwaiting]

lemma isLogOf (h : History hs as log) : IsLogOf hs log := by
  induction h with
  | start => exact ⟨by simp, by simp⟩
  | empty _ _ _ ih | encode _ _ ih | withInjectedCode _ ih | configure _ _ _ ih
  | reorder _ _ ih => exact ih
  | addCall _ _ _ ih | addAggregate _ _ ih => exact ih.of_follows follows_add
  | leave _ _ ih => exact (ih.of_follows (follows_settleAll _)).of_follows (follows_closeAll _)
  | take _ hi ih => exact ih.take hi

end Handles.History

end ContractCalls
