import ContractCalls.Proofs.Multicall.Adding
import ContractCalls.Proofs.Multicall.Value

/-!
# The layout of an aggregate

An aggregate notes call by call whether some call has a value, and whether one differs from the
first in whether it may fail. So the layout that is chosen does not depend on the order of the
calls, and no more does their total.
-/

namespace ContractCalls

namespace Entry

variable {entries others : List (Entry QueuedCall)}

/-- Some call has a value. -/
def HavePayable (entries : List (Entry QueuedCall)) : Prop :=
  ∃ e ∈ entries, e.call.value ≠ 0

/-- Two calls differ in whether they may fail. -/
def Differ (entries : List (Entry QueuedCall)) : Prop :=
  ∃ e ∈ entries, ∃ e' ∈ entries, e.allowFailure ≠ e'.allowFailure

lemma calls_eq_map (entries : List (Entry QueuedCall)) :
    Entry.calls entries = entries.map fun e =>
      ⟨e.call.target, e.allowFailure, e.call.value, e.call.data⟩ := by
  induction entries with
  | nil => rw [Entry.calls, List.map_nil]
  | cons e entries ih => rw [Entry.calls, ih, List.map_cons]

lemma any_calls_value_iff :
    (Entry.calls entries).any (·.value != 0) = true ↔ HavePayable entries := by
  simp [calls_eq_map, HavePayable]

/-- It suffices to compare all calls with the first one. -/
lemma differ_cons_iff {first : Entry QueuedCall} :
    Differ (first :: entries) ↔ ∃ e ∈ first :: entries, e.allowFailure ≠ first.allowFailure := by
  constructor
  · rintro ⟨e, he, e', he', hne⟩
    by_cases hfirst : e.allowFailure = first.allowFailure
    · exact ⟨e', he', fun hfirst' => hne (hfirst.trans hfirst'.symm)⟩
    · exact ⟨e, he, hfirst⟩
  · rintro ⟨e, he, hne⟩
    exact ⟨e, he, first, List.mem_cons_self, hne⟩

lemma any_calls_ne_head_iff :
    (Entry.calls entries).any
      (·.allowFailure != (Entry.calls entries).head?.any (·.allowFailure)) = true ↔
        Differ entries := by
  cases entries with
  | nil => simp [Entry.calls, Differ]
  | cons first rest =>
    rw [differ_cons_iff]
    simp [calls_eq_map]

/-- The first call speaks for all if none differs. -/
lemma head?_any_allowFailure_iff (hsame : ¬Differ entries) :
    (Entry.calls entries).head?.any (·.allowFailure) = false ↔
      ∀ e ∈ entries, e.allowFailure = false := by
  cases entries with
  | nil => simp [Entry.calls]
  | cons first rest =>
    rw [differ_cons_iff] at hsame
    push Not at hsame
    rw [calls_eq_map, List.map_cons, List.head?_cons, Option.any_some]
    constructor
    · exact fun hfirst e he => (hsame e he).trans hfirst
    · exact fun hall => hall first List.mem_cons_self

/-! ### Calls in another order -/

/-- What the layout and the total depend on: whether a call may fail, and its value. -/
def terms (e : Entry QueuedCall) : Bool × Word :=
  (e.allowFailure, e.call.value)

lemma exists_terms_iff {p : Bool × Word → Prop} :
    (∃ e ∈ entries, p e.terms) ↔ ∃ t ∈ entries.map terms, p t := by
  simp

section Reordered

variable (hperm : (others.map terms).Perm (entries.map terms))

include hperm

lemma exists_terms_congr {p : Bool × Word → Prop} :
    (∃ e ∈ others, p e.terms) ↔ ∃ e ∈ entries, p e.terms := by
  simp only [exists_terms_iff, hperm.mem_iff]

lemma havePayable_congr : HavePayable others ↔ HavePayable entries :=
  exists_terms_congr hperm (p := fun t => t.2 ≠ 0)

lemma differ_congr : Differ others ↔ Differ entries := by
  have hinner (e : Entry QueuedCall) :=
    exists_terms_congr hperm (p := fun t => e.allowFailure ≠ t.1)
  exact (exists_congr fun e => and_congr_right fun _ => hinner e).trans
    (exists_terms_congr hperm (p := fun t => ∃ e' ∈ entries, t.1 ≠ e'.allowFailure))

lemma forall_allowFailure_congr :
    (∀ e ∈ others, e.allowFailure = false) ↔ ∀ e ∈ entries, e.allowFailure = false := by
  have hany := exists_terms_congr hperm (p := fun t => t.1 ≠ false)
  simpa [terms] using not_congr hany

end Reordered

end Entry

namespace Strategy

variable {anyPayable mixedFailure allowFailure : Bool}

/-- A layout is the cheapest one for calls that keeps what they say. -/
def Suits (entries : List (Entry QueuedCall)) : Strategy → Prop
  | aggregate3Value => Entry.HavePayable entries
  | aggregate3 => ¬Entry.HavePayable entries ∧ Entry.Differ entries
  | tryAggregate requireSuccess => ¬Entry.HavePayable entries ∧ ¬Entry.Differ entries ∧
      (requireSuccess = true ↔ ∀ e ∈ entries, e.allowFailure = false)

lemma suits_congr {added added' : List (Entry QueuedCall)}
    (hperm : (added'.map Entry.terms).Perm (added.map Entry.terms)) {s : Strategy} :
    s.Suits added' ↔ s.Suits added := by
  cases s <;> simp only [Suits, Entry.havePayable_congr hperm, Entry.differ_congr hperm,
    Entry.forall_allowFailure_congr hperm]

lemma select_eq_aggregate3Value_iff :
    select anyPayable mixedFailure allowFailure = .aggregate3Value ↔ anyPayable = true := by
  cases anyPayable <;> cases mixedFailure <;> simp [select]

lemma select_eq_aggregate3_iff :
    select anyPayable mixedFailure allowFailure = .aggregate3 ↔
      ¬anyPayable = true ∧ mixedFailure = true := by
  cases anyPayable <;> cases mixedFailure <;> simp [select]

lemma select_eq_tryAggregate_iff {requireSuccess : Bool} :
    select anyPayable mixedFailure allowFailure = .tryAggregate requireSuccess ↔
      ¬anyPayable = true ∧ ¬mixedFailure = true ∧
        (requireSuccess = true ↔ allowFailure = false) := by
  cases anyPayable <;> cases mixedFailure <;> cases allowFailure <;> simp [select, eq_comm]

end Strategy

namespace AggregateOf

variable {added : List (Entry QueuedCall)} {a : Aggregate}

namespace IsBuiltBy

/-- The flags say of the added calls what they are for. -/
lemma anyPayable_iff (h : IsBuiltBy added a) : a.anyPayable = true ↔ Entry.HavePayable added := by
  rw [(forAggregates_iff.mp h.isBuilt.isSound).1.anyPayable_eq, h.calls_eq,
    Entry.any_calls_value_iff]

lemma mixedFailure_iff (h : IsBuiltBy added a) : a.mixedFailure = true ↔ Entry.Differ added := by
  rw [(forAggregates_iff.mp h.isBuilt.isSound).1.mixedFailure_eq, h.calls_eq,
    Entry.any_calls_ne_head_iff]

lemma strategy_eq_iff (h : IsBuiltBy added a) (s : Strategy) : a.strategy = s ↔ s.Suits added := by
  rw [strategy_eq]
  cases s with
  | aggregate3Value => rw [Strategy.select_eq_aggregate3Value_iff, h.anyPayable_iff, Strategy.Suits]
  | aggregate3 =>
    rw [Strategy.select_eq_aggregate3_iff, h.anyPayable_iff, h.mixedFailure_iff, Strategy.Suits]
  | tryAggregate requireSuccess =>
    rw [Strategy.select_eq_tryAggregate_iff, h.anyPayable_iff, h.mixedFailure_iff, h.calls_eq,
      Strategy.Suits]
    -- only where no call differs does the first one stand for all
    refine and_congr_right fun _ => and_congr_right fun hsame => ?_
    rw [Entry.head?_any_allowFailure_iff hsame]

lemma toNat_totalValue_eq (h : IsBuiltBy added a) :
    a.totalValue.toNat = capped (added.map (·.call.value.toNat)).sum := by
  have hvalues : a.totalValue = (added.map (·.call.value)).foldl addValues 0 := by
    rw [totalValue_eq, h.calls_eq, Entry.calls_eq_map, List.foldl_map, List.foldl_map]
  rw [hvalues, toNat_foldl_addValues, List.map_map]
  simp [Function.comp_def]

end IsBuiltBy

/-- The layout and the total of an aggregate follow from which of the added calls have a value and
which may fail, in any order: values need the full layout, and different flags the one with flags.
Calls with the same flags and values that are added in another order get the same layout and
total. -/
theorem strategy_suits_added (h : IsBuiltBy added a) :
    (∀ s, a.strategy = s ↔ s.Suits added) ∧
      ∀ {added' : List (Entry QueuedCall)} {b : Aggregate}, IsBuiltBy added' b →
        (added'.map Entry.terms).Perm (added.map Entry.terms) →
          b.strategy = a.strategy ∧ b.totalValue = a.totalValue := by
  refine ⟨h.strategy_eq_iff, fun {added' b} hb hperm => ⟨?_, ?_⟩⟩
  · have hsuits : a.strategy.Suits added := (h.strategy_eq_iff _).mp rfl
    exact (hb.strategy_eq_iff _).mpr ((Strategy.suits_congr hperm).mpr hsuits)
  · have hsum : (added'.map (·.call.value.toNat)).sum = (added.map (·.call.value.toNat)).sum := by
      simpa [Function.comp_def, Entry.terms] using (hperm.map (·.2.toNat)).sum_eq
    exact BitVec.eq_of_toNat_eq (by rw [hb.toNat_totalValue_eq, h.toNat_totalValue_eq, hsum])

/-- Values come late in one order and first in the other, where an aggregate has one. Their sum is
cut off. -/
theorem strategy_suits_added_reversed :
    let client : Client := { chainId := 1, config := {}, errors := {} }
    let start := empty client { address := canonicalMulticall }
    let free := client.rawCall 7 [] fun _ => .ok []
    let paid := { free with request.value := 1 }
    let rich := { free with request.value := -1 }
    let within := start.add (.single paid) false 0
    let added : List (Entry QueuedCall) :=
      [⟨1, false, .single free⟩, ⟨2, true, .single rich⟩, ⟨3, false, .nested within⟩]
    let a :=
      ((start.add (.single free) false 1).add (.single rich) true 2).add (.nested within) false 3
    let b :=
      ((start.add (.nested within) false 1).add (.single rich) true 2).add (.single free) false 3
    IsBuiltBy added a ∧ Strategy.aggregate3Value.Suits added ∧ a.strategy = .aggregate3Value ∧
      b.strategy = .aggregate3Value ∧ b.totalValue = a.totalValue := by
  intro client start free paid rich within added a b
  have hstart : IsBuiltBy [] start := .empty client _
  have hwithin : within.IsBuilt := .addCall (.empty client _) paid false 0
  have ha : IsBuiltBy added a :=
    ((hstart.addCall free false 1).addCall rich true 2).addAggregate hwithin false 3
  have hb :
      IsBuiltBy [⟨1, false, .nested within⟩, ⟨2, true, .single rich⟩, ⟨3, false, .single free⟩] b :=
    ((hstart.addAggregate hwithin false 1).addCall rich true 2).addCall free false 3
  obtain ⟨hsuits, horder⟩ := strategy_suits_added ha
  have hpayable : Strategy.aggregate3Value.Suits added :=
    ⟨⟨2, true, .single rich⟩, by simp [added], by rw [QueuedCall.value]; decide⟩
  have hstrategy := (hsuits _).mpr hpayable
  obtain ⟨hstrategy', htotal⟩ := horder hb (List.reverse_perm (added.map Entry.terms))
  exact ⟨ha, hpayable, hstrategy, hstrategy'.trans hstrategy, htotal⟩

end AggregateOf

end ContractCalls
