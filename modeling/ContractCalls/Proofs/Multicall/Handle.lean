import ContractCalls.Multicall.Handle
import Mathlib.Data.List.GetD
import Mathlib.Tactic

/-!
# Settling handles

A handle that waits is settled by the first settlement for it, and by no other. So settlements for
different handles that all wait take effect, each for its own handle.
-/

namespace ContractCalls.Handles

variable {hs : Handles}

/-- The handles that a table knows to wait are numbers of its entries. -/
lemma lt_length_of_waiting {h : Nat} (hwaiting : hs.state h = .waiting) : h < hs.length := by
  by_contra hle
  rw [state, List.getD_eq_default _ _ (not_lt.mp hle)] at hwaiting
  simp at hwaiting

lemma state_settle {s : Settlement} (hwaiting : hs.state s.handle = .waiting) :
    (hs.settle s).state s.handle = .settled s.outcome := by
  have hlt := lt_length_of_waiting hwaiting
  rw [settle, hwaiting, state]
  simp [hlt]

lemma state_set_of_ne {h i : Nat} (hne : h ≠ i) (state : HandleState) :
    Handles.state (hs.set i state) h = hs.state h := by
  rw [Handles.state, Handles.state, List.getD_eq_getElem?_getD, List.getD_eq_getElem?_getD,
    List.getElem?_set_ne hne.symm]

lemma state_settle_of_ne {s : Settlement} {h : Nat} (hne : h ≠ s.handle) :
    (hs.settle s).state h = hs.state h := by
  rw [settle]
  split
  · exact state_set_of_ne hne _
  · rfl

lemma state_settleAll_of_not_mem {ss : List Settlement} {h : Nat}
    (hmem : h ∉ ss.map (·.handle)) : (hs.settleAll ss).state h = hs.state h := by
  induction ss generalizing hs with
  | nil => rfl
  | cons s ss ih =>
    rw [List.map_cons, List.mem_cons, not_or] at hmem
    obtain ⟨hne, hmem⟩ := hmem
    exact (ih hmem).trans (state_settle_of_ne hne)

/-- Settlements for different handles that wait take effect. -/
theorem state_settleAll {ss : List Settlement} (hnodup : (ss.map (·.handle)).Nodup)
    (hwaiting : ∀ s ∈ ss, hs.state s.handle = .waiting) {s : Settlement} (hs_mem : s ∈ ss) :
    (hs.settleAll ss).state s.handle = .settled s.outcome := by
  induction ss generalizing hs with
  | nil => simp at hs_mem
  | cons s' ss ih =>
    rw [List.map_cons, List.nodup_cons] at hnodup
    obtain ⟨hfirst, hnodup⟩ := hnodup
    rw [List.forall_mem_cons] at hwaiting
    obtain ⟨hwaiting', hwaiting⟩ := hwaiting
    rcases List.mem_cons.mp hs_mem with rfl | hs_mem
    · exact (state_settleAll_of_not_mem hfirst).trans (state_settle hwaiting')
    · refine ih hnodup (fun t ht => ?_) hs_mem
      have hne : t.handle ≠ s'.handle := by
        intro heq
        exact hfirst (heq ▸ List.mem_map_of_mem ht)
      rw [state_settle_of_ne hne]
      exact hwaiting t ht

/-- Settlements for different handles are a function of the handle. -/
lemma exists_outcomes {ss : List Settlement} (hnodup : (ss.map (·.handle)).Nodup) :
    ∃ out : Nat → Except ContractError Outcome, ∀ s ∈ ss, out s.handle = s.outcome := by
  induction ss with
  | nil => exact ⟨fun _ => .error .notExecuted, by simp⟩
  | cons s ss ih =>
    rw [List.map_cons, List.nodup_cons] at hnodup
    obtain ⟨hfirst, hnodup⟩ := hnodup
    obtain ⟨out, hout⟩ := ih hnodup
    refine ⟨Function.update out s.handle s.outcome, List.forall_mem_cons.mpr ⟨by simp, ?_⟩⟩
    intro t ht
    have hne : t.handle ≠ s.handle := by
      intro heq
      exact hfirst (heq ▸ List.mem_map_of_mem ht)
    rw [Function.update_of_ne hne]
    exact hout t ht

/-! ### Closing and taking -/

lemma state_close_of_ne {h i : Nat} (hne : i ≠ h) : (hs.close h).state i = hs.state i := by
  rw [close]
  split
  · exact state_set_of_ne hne _
  · rfl

lemma state_close_of_waiting {h : Nat} (hwaiting : hs.state h = .waiting) :
    (hs.close h).state h = .closed := by
  have hlt := lt_length_of_waiting hwaiting
  rw [close, hwaiting, state]
  simp [hlt]

/-- Only handles that wait are closed. -/
lemma state_close_of_not_waiting {h i : Nat} (hnot : hs.state i ≠ .waiting) :
    (hs.close h).state i = hs.state i := by
  by_cases hne : i = h
  · subst hne
    rw [close]
    split
    · next hwaiting => exact absurd hwaiting hnot
    · rfl
  · exact state_close_of_ne hne

lemma state_closeAll_of_not_waiting (handles : List Nat) {i : Nat} (hnot : hs.state i ≠ .waiting) :
    (hs.closeAll handles).state i = hs.state i := by
  induction handles generalizing hs with
  | nil => rfl
  | cons h handles ih =>
    have hclose := state_close_of_not_waiting (h := h) hnot
    exact (ih (hclose ▸ hnot)).trans hclose

lemma state_closeAll_of_waiting {handles : List Nat} {i : Nat} (hmem : i ∈ handles)
    (hwaiting : hs.state i = .waiting) : (hs.closeAll handles).state i = .closed := by
  induction handles generalizing hs with
  | nil => cases hmem
  | cons h handles ih =>
    by_cases hne : i = h
    · subst hne
      have hclose := state_close_of_waiting hwaiting
      exact (state_closeAll_of_not_waiting handles (hclose ▸ HandleState.noConfusion)).trans hclose
    · refine ih (List.mem_of_ne_of_mem hne hmem) ?_
      exact (state_close_of_ne hne).trans hwaiting

lemma state_closeAll_of_not_mem {handles : List Nat} {i : Nat} (hmem : i ∉ handles) :
    (hs.closeAll handles).state i = hs.state i := by
  induction handles generalizing hs with
  | nil => rfl
  | cons h handles ih =>
    rw [List.mem_cons, not_or] at hmem
    exact (ih hmem.2).trans (state_close_of_ne hmem.1)

/-- A handle that was settled before its aggregate went gives its outcome. -/
lemma tryTake_closeAll_of_settled (handles : List Nat) {i : Nat}
    {outcome : Except ContractError Outcome} (hsettled : hs.state i = .settled outcome) :
    ((hs.closeAll handles).tryTake i).2 = some outcome := by
  have hnot : hs.state i ≠ .waiting := hsettled ▸ HandleState.noConfusion
  rw [tryTake, state_closeAll_of_not_waiting handles hnot, hsettled]

/-- A handle that was not says that its call was not executed. -/
lemma tryTake_closeAll_of_waiting {handles : List Nat} {i : Nat} (hmem : i ∈ handles)
    (hwaiting : hs.state i = .waiting) :
    ((hs.closeAll handles).tryTake i).2 = some (.error .notExecuted) := by
  rw [tryTake, state_closeAll_of_waiting hmem hwaiting]

/-! ### New handles -/

lemma state_add : hs.add.1.state hs.add.2 = .waiting := by
  simp [add, state]

/-- The new handle is the only change. -/
lemma state_add_of_waiting {h : Nat} (hwaiting : hs.state h = .waiting) :
    hs.add.1.state h = .waiting ∧ h ≠ hs.add.2 := by
  have hlt := lt_length_of_waiting hwaiting
  refine ⟨?_, hlt.ne⟩
  rw [state, add, List.getD_append _ _ _ _ hlt]
  exact hwaiting

end ContractCalls.Handles
