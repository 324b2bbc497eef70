import ContractCalls.Proofs.Multicall.Encoding

/-!
# Values of aggregates

The values of the calls of an aggregate are added up in 256 bits, and what is more than these can
say is cut off, at every level. As long as the sum of all values fits, also of the calls in
aggregates within, nothing is lost anywhere.
-/

namespace ContractCalls

/-- What is left of a sum of values in 256 bits. -/
def capped (n : Nat) : Nat :=
  min n (2 ^ 256 - 1)

lemma capped_of_lt {n : Nat} (h : n < 2 ^ 256) : capped n = n :=
  min_eq_left (by omega)

/-- Cutting off early makes no difference to a longer sum. -/
lemma capped_add_capped (start m n : Nat) :
    capped (capped (start + capped m) + n) = capped (start + (m + n)) := by
  simp only [capped]
  omega

lemma toNat_addValues (a b : Word) : (addValues a b).toNat = capped (a.toNat + b.toNat) := by
  rw [addValues, BitVec.uaddOverflow, capped]
  split
  · next hoverflow =>
    rw [decide_eq_true_eq] at hoverflow
    rw [min_eq_right (by omega)]
    rfl
  · next hfits =>
    rw [decide_eq_true_eq] at hfits
    rw [BitVec.toNat_add, Nat.mod_eq_of_lt (by omega), min_eq_left (by omega)]

/-- The same for a list of values. -/
lemma toNat_foldl_addValues (values : List Word) (sum : Word) :
    (values.foldl addValues sum).toNat = capped (sum.toNat + (values.map (·.toNat)).sum) := by
  induction values generalizing sum with
  | nil => rw [List.foldl_nil, List.map_nil, List.sum_nil, Nat.add_zero, capped_of_lt sum.isLt]
  | cons value values ih =>
    have hvalue := capped_add_capped sum.toNat value.toNat (values.map (·.toNat)).sum
    rw [capped_of_lt value.isLt] at hvalue
    rw [List.foldl_cons, ih, toNat_addValues, hvalue, List.map_cons, List.sum_cons]

mutual

/-- The values of all single calls within a call together. -/
def QueuedCall.leafSum : QueuedCall → Nat
  | .single call => call.request.value.toNat
  | .nested a => AggregateOf.leafSum a

def AggregateOf.leafSum : Aggregate → Nat
  | ⟨_, _, entries, _, _, _, _, _⟩ => Entry.leafSum entries

def Entry.leafSum : List (Entry QueuedCall) → Nat
  | [] => 0
  | ⟨_, _, call⟩ :: entries => call.leafSum + Entry.leafSum entries

end

mutual

/-- The value that a call takes along is what is left of the sum. -/
lemma QueuedCall.toNat_value (call : QueuedCall) : call.value.toNat = capped call.leafSum := by
  match call with
  | .single call => rw [QueuedCall.value, QueuedCall.leafSum, capped_of_lt call.request.value.isLt]
  | .nested a =>
    rw [QueuedCall.value, QueuedCall.leafSum]
    exact AggregateOf.toNat_totalValue a

lemma AggregateOf.toNat_totalValue (a : Aggregate) : a.totalValue.toNat = capped a.leafSum := by
  match a with
  | ⟨_, _, entries, _, _, _, _, _⟩ =>
    rw [AggregateOf.totalValue, AggregateOf.leafSum, Entry.toNat_sumValues entries 0]
    simp

lemma Entry.toNat_sumValues (entries : List (Entry QueuedCall)) (sum : Word) :
    (Entry.sumValues sum entries).toNat = capped (sum.toNat + Entry.leafSum entries) := by
  match entries with
  | [] => rw [Entry.sumValues, Entry.leafSum, Nat.add_zero, capped_of_lt sum.isLt]
  | ⟨_, _, call⟩ :: entries =>
    rw [Entry.sumValues, Entry.leafSum, Entry.toNat_sumValues entries, toNat_addValues,
      QueuedCall.toNat_value call, capped_add_capped]

end

/-- Adding the values up without regard to an overflow gives the same, if the sum fits. -/
lemma Entry.foldl_add_value (entries : List (Entry QueuedCall)) (sum : Word)
    (h : sum.toNat + Entry.leafSum entries < 2 ^ 256) :
    (Entry.calls entries).foldl (fun sum call => sum + call.value) sum =
      Entry.sumValues sum entries := by
  induction entries generalizing sum with
  | nil => rw [Entry.calls, List.foldl_nil, Entry.sumValues]
  | cons e entries ih =>
    obtain ⟨handle, allowFailure, call⟩ := e
    rw [Entry.leafSum] at h
    have hvalue : call.value.toNat = call.leafSum :=
      call.toNat_value.trans (capped_of_lt (by omega))
    have hadd : (addValues sum call.value).toNat = sum.toNat + call.value.toNat :=
      (toNat_addValues sum call.value).trans (capped_of_lt (by omega))
    have hplain : sum + call.value = addValues sum call.value := by
      apply BitVec.eq_of_toNat_eq
      rw [hadd, BitVec.toNat_add, Nat.mod_eq_of_lt (by omega)]
    rw [Entry.calls, List.foldl_cons, Entry.sumValues, hplain]
    exact ih (addValues sum call.value) (by omega)

end ContractCalls
