import ContractCalls.Proofs.Inclusion

/-!
# Waiting on a simulated chain

A simulated chain shows a receipt after so many polls that fail and so many that miss it, and its
head moves on by the same number of blocks with every poll. So every wait on it ends, after polls
whose number can be told beforehand. What it leaves of the failures and misses stands before the
next wait.
-/

namespace ContractCalls

variable {ρ ρ' : Type} {hash : Hash}

/-! ### What polls come upon -/

/-- What polls for a receipt and for the latest block of a simulated chain come upon. -/
structure Forecast where
  /-- The polls that fail before any other. -/
  failures : Nat
  /-- The polls after them that find no receipt. -/
  misses : Nat
  receipt : Receipt
  head : Nat
  blocksPerPoll : Nat

namespace Forecast

/-- The polls that do not find the receipt. -/
def delay (f : Forecast) : Nat :=
  f.failures + f.misses

/-- What is left after polls for the receipt. -/
def afterReceipts (f : Forecast) (polls : Nat) : Forecast :=
  { f with failures := f.failures - polls, misses := f.misses - (polls - f.failures) }

/-- The head after polls for it. -/
def headAfter (f : Forecast) (polls : Nat) : Nat :=
  f.head + polls * f.blocksPerPoll

/-- What is left after polls for the latest block. -/
def afterBlocks (f : Forecast) (polls : Nat) : Forecast :=
  { f with head := f.headAfter polls }

lemma afterReceipts_zero (f : Forecast) : f.afterReceipts 0 = f := by
  simp [afterReceipts]

lemma afterReceipts_succ (f : Forecast) (polls : Nat) :
    f.afterReceipts (polls + 1) = (f.afterReceipts 1).afterReceipts polls := by
  simp only [afterReceipts, mk.injEq, and_true]
  omega

lemma headAfter_succ (f : Forecast) (polls : Nat) :
    f.headAfter (polls + 1) = (f.afterBlocks polls).headAfter 1 := by
  simp only [headAfter, afterBlocks]
  ring

lemma afterBlocks_succ (f : Forecast) (polls : Nat) :
    f.afterBlocks (polls + 1) = (f.afterBlocks polls).afterBlocks 1 := by
  rw [afterBlocks, headAfter_succ]
  rfl

lemma headAfter_mono (f : Forecast) : Monotone f.headAfter :=
  fun _ _ h => Nat.add_le_add_left (Nat.mul_le_mul_right _ h) _

lemma delay_afterReceipts (f : Forecast) (polls : Nat) :
    (f.afterReceipts polls).delay = f.delay - polls := by
  simp only [delay, afterReceipts]
  omega

end Forecast

namespace SimulatedChain

variable {c : SimulatedChain} {f : Forecast}

/-- A chain on which polls for the receipt of a transaction come upon what is forecast. Its failures
pass by themselves. -/
structure Meets (c : SimulatedChain) (hash : Hash) (f : Forecast) : Prop where
  length_failures : c.receiptFailures.length = f.failures
  retryable : ∀ message ∈ c.receiptFailures, (RpcError.custom message).kind.isRetryable
  lookup_receipts : c.receipts.lookup hash = some ⟨f.misses, f.receipt⟩
  head_eq : c.head = f.head
  blocksPerPoll_eq : c.blocksPerPoll = f.blocksPerPoll

/-- The forecast for a receipt that is scheduled while some polls are made to fail. -/
lemma meets_mineAfter (c : SimulatedChain) (hc : c.receiptFailures = []) (hash : Hash)
    (failures misses block : Nat) (status : Bool) {message : String}
    (hmessage : (RpcError.custom message).kind.isRetryable) :
    ((c.failReceiptPolls failures message).mineAfter hash misses block status).Meets hash
      { failures, misses, receipt := { hash, block, status, gasUsed := 21000 }, head := c.head,
        blocksPerPoll := c.blocksPerPoll } where
  length_failures := by simp [mineAfter, failReceiptPolls, hc]
  retryable := by
    intro found hfound
    simp only [mineAfter, failReceiptPolls, hc, List.nil_append, List.mem_replicate] at hfound
    rwa [hfound.2]
  lookup_receipts := by simp [mineAfter, replace]
  head_eq := rfl
  blocksPerPoll_eq := rfl

lemma run_receipt_of_failure {message : String} {rest : List String}
    (h : c.receiptFailures = message :: rest) (hash : Hash) :
    (Node.receipt hash).run.run c = (.error (.custom message),
      { c with receiptPolls := c.receiptPolls + 1, receiptFailures := rest }) := by
  change SimulatedChain.receipt hash c = _
  simp only [SimulatedChain.receipt, h]

lemma run_receipt_of_miss {misses : Nat} {receipt : Receipt} (h : c.receiptFailures = [])
    (hlookup : c.receipts.lookup hash = some ⟨misses + 1, receipt⟩) :
    (Node.receipt hash).run.run c = (.ok none,
      { c with
        receiptPolls := c.receiptPolls + 1
        receipts := replace c.receipts hash ⟨misses, receipt⟩ }) := by
  change SimulatedChain.receipt hash c = _
  simp only [SimulatedChain.receipt, h, hlookup]

lemma run_receipt_of_found {receipt : Receipt} (h : c.receiptFailures = [])
    (hlookup : c.receipts.lookup hash = some ⟨0, receipt⟩) :
    (Node.receipt hash).run.run c =
      (.ok (some receipt), { c with receiptPolls := c.receiptPolls + 1 }) := by
  change SimulatedChain.receipt hash c = _
  simp only [SimulatedChain.receipt, h, hlookup]

/-- A poll for the receipt comes upon a failure, else upon a miss, else upon the receipt. -/
lemma Meets.run_receipt (h : c.Meets hash f) :
    ((Node.receipt hash).run.run c).2.Meets hash (f.afterReceipts 1) ∧
      if f.delay = 0 then ((Node.receipt hash).run.run c).1 = .ok (some f.receipt)
      else LacksReceipt ((Node.receipt hash).run.run c).1 := by
  obtain ⟨hlength, hretryable, hlookup, hhead, hblocks⟩ := h
  obtain ⟨failures, misses, receipt, head, blocksPerPoll⟩ := f
  cases hfailures : c.receiptFailures with
  | cons message rest =>
    rw [hfailures] at hlength hretryable
    obtain rfl : rest.length + 1 = failures := hlength
    obtain ⟨hmessage, hrest⟩ := List.forall_mem_cons.mp hretryable
    rw [run_receipt_of_failure hfailures]
    refine ⟨⟨rfl, hrest, ?_, hhead, hblocks⟩, ?_⟩
    · simpa [Forecast.afterReceipts] using hlookup
    · rw [if_neg (by simp [Forecast.delay])]
      exact hmessage
  | nil =>
    rw [hfailures] at hlength
    obtain rfl : 0 = failures := hlength
    cases misses with
    | zero =>
      rw [run_receipt_of_found hfailures hlookup, if_pos (by simp [Forecast.delay])]
      refine ⟨⟨?_, by simp [hfailures], hlookup, hhead, hblocks⟩, rfl⟩
      simp [hfailures, Forecast.afterReceipts]
    | succ misses =>
      rw [run_receipt_of_miss hfailures hlookup, if_neg (by simp [Forecast.delay])]
      refine ⟨⟨?_, by simp [hfailures], ?_, hhead, hblocks⟩, rfl⟩
      · simp [hfailures, Forecast.afterReceipts]
      · simp [replace, Forecast.afterReceipts]

lemma Meets.stateAfter_receipt (h : c.Meets hash f) (polls : Nat) :
    (stateAfter (Node.receipt hash).run polls c).Meets hash (f.afterReceipts polls) := by
  induction polls generalizing c f with
  | zero => rwa [Forecast.afterReceipts_zero]
  | succ polls ih =>
    rw [Forecast.afterReceipts_succ]
    exact ih h.run_receipt.1

lemma Meets.lacksReceipt (h : c.Meets hash f) {i : Nat} (hi : i < f.delay) :
    LacksReceipt (answerAt (Node.receipt hash).run c i) := by
  have hanswer := (h.stateAfter_receipt i).run_receipt.2
  rwa [Forecast.delay_afterReceipts, if_neg (Nat.sub_ne_zero_of_lt hi)] at hanswer

lemma Meets.answerAt_delay (h : c.Meets hash f) :
    answerAt (Node.receipt hash).run c f.delay = .ok (some f.receipt) := by
  have hanswer := (h.stateAfter_receipt f.delay).run_receipt.2
  rwa [Forecast.delay_afterReceipts, if_pos (Nat.sub_self _)] at hanswer

/-- A poll for the latest block moves the head on, as long as the numbers fit in 64 bits. -/
lemma Meets.run_blockNumber (h : c.Meets hash f) (hhead : f.headAfter 1 < UInt64.size) :
    (Node.blockNumber.run.run c).1 = .ok (f.headAfter 1) ∧
      (Node.blockNumber.run.run c).2.Meets hash (f.afterBlocks 1) := by
  have hnumber : c.numberAhead c.blocksPerPoll = f.headAfter 1 := by
    rw [numberAhead, h.head_eq, h.blocksPerPoll_eq, ← Nat.one_mul f.blocksPerPoll]
    exact Nat.mod_eq_of_lt hhead
  exact ⟨congrArg Except.ok hnumber, h.length_failures, h.retryable, h.lookup_receipts, hnumber,
    h.blocksPerPoll_eq⟩

lemma Meets.stateAfter_blockNumber (h : c.Meets hash f) {polls : Nat}
    (hhead : f.headAfter polls < UInt64.size) :
    (stateAfter Node.blockNumber.run polls c).Meets hash (f.afterBlocks polls) := by
  induction polls with
  | zero => simpa [stateAfter, Forecast.afterBlocks, Forecast.headAfter] using h
  | succ polls ih =>
    -- the number of the last block is the largest, so that those before it fit as well
    have hbefore := ih ((f.headAfter_mono (Nat.le_succ _)).trans_lt hhead)
    rw [stateAfter_succ, Forecast.afterBlocks_succ]
    exact (hbefore.run_blockNumber (f.headAfter_succ polls ▸ hhead)).2

lemma Meets.answerAt_blockNumber (h : c.Meets hash f) {i : Nat}
    (hhead : f.headAfter (i + 1) < UInt64.size) :
    answerAt Node.blockNumber.run c i = .ok (f.headAfter (i + 1)) := by
  have hbefore := h.stateAfter_blockNumber ((f.headAfter_mono (Nat.le_succ i)).trans_lt hhead)
  rw [f.headAfter_succ] at hhead ⊢
  exact (hbefore.run_blockNumber hhead).1

end SimulatedChain

/-! ### The law of waiting on a simulated chain -/

namespace PendingInclusion

section Ends

variable {σ : Type} [Node σ] {s : σ}

/-- A wait ends in some way, after so many polls for the receipt and then for the latest block, and
after no other request. -/
def Ends (pending : PendingInclusion ρ) (polls : Nat) (s : σ) (receiptPolls blockPolls : Nat)
    (waited : Waited ρ) : Prop :=
  ∃ (receipts : List (Except RpcError (Option Receipt))) (blocks : List (Except RpcError Nat))
    (node : σ), receipts.length = receiptPolls ∧ blocks.length = blockPolls ∧
      (pending.wait polls : StateM (Recorded σ) _).run ⟨s, []⟩ = (some waited,
        ⟨node, receipts.map (.receipt pending.hash) ++ blocks.map .blockNumber⟩)

lemma ends_of_settles {pending : PendingInclusion ρ} {polls m n : Nat}
    {result : Except InclusionError ρ}
    (h : pending.Settles (answerAt (Node.receipt pending.hash).run s)
      (answerAt Node.blockNumber.run (stateAfter (Node.receipt pending.hash).run m s)) polls m n
      (some result)) : pending.Ends polls s m n ⟨result, (m - 1) + (n - 1)⟩ := by
  let found := stateAfter (Node.receipt pending.hash).run m s
  refine ⟨(List.range m).map (answerAt (Node.receipt pending.hash).run s),
    (List.range n).map (answerAt Node.blockNumber.run found),
    stateAfter Node.blockNumber.run n found, by simp, by simp, ?_⟩
  rw [run_wait_of_settles (settles_recorded h), stateAfter_polls, List.map_map, List.map_map]
  rfl

end Ends

variable {pending : PendingInclusion ρ} {c : SimulatedChain} {f : Forecast} {polls p : Nat}

/-- The number of polls for the latest block that a wait makes once it has the receipt: none if the
block of the transaction suffices, else the least number, one at least, that makes the transaction
deep enough. -/
def TakesBlockPolls (pending : PendingInclusion ρ) (f : Forecast) (p : Nat) : Prop :=
  if pending.config.confirmations ≤ 1 then p = 0
  else IsLeast {p | 1 ≤ p ∧ pending.deepBlock f.receipt ≤ f.headAfter p} p

/-- A head that moves on becomes as large as needed. -/
lemma exists_takesBlockPolls (pending : PendingInclusion ρ) (hblocks : 0 < f.blocksPerPoll) :
    ∃ p, pending.TakesBlockPolls f p := by
  by_cases hconfirmations : pending.config.confirmations ≤ 1
  · exact ⟨0, by rw [TakesBlockPolls, if_pos hconfirmations]⟩
  · simp only [TakesBlockPolls, if_neg hconfirmations]
    have hlarge : pending.deepBlock f.receipt ≤ f.headAfter (pending.deepBlock f.receipt + 1) :=
      calc pending.deepBlock f.receipt
        _ ≤ pending.deepBlock f.receipt + 1 := Nat.le_succ _
        _ ≤ (pending.deepBlock f.receipt + 1) * f.blocksPerPoll := Nat.le_mul_of_pos_right _ hblocks
        _ ≤ f.headAfter (pending.deepBlock f.receipt + 1) := Nat.le_add_left _ _
    have hne : {p | 1 ≤ p ∧ pending.deepBlock f.receipt ≤ f.headAfter p}.Nonempty :=
      ⟨_, Nat.le_add_left _ _, hlarge⟩
    exact ⟨_, Nat.sInf_mem hne, fun _ => Nat.sInf_le⟩

lemma TakesBlockPolls.unique {q : Nat} (hp : pending.TakesBlockPolls f p)
    (hq : pending.TakesBlockPolls f q) : p = q := by
  by_cases hconfirmations : pending.config.confirmations ≤ 1
  · rw [TakesBlockPolls, if_pos hconfirmations] at hp hq
    rw [hp, hq]
  · rw [TakesBlockPolls, if_neg hconfirmations] at hp hq
    exact IsLeast.unique hp hq

lemma settles_of_lt_retries (hc : c.Meets pending.hash f) (hstatus : f.receipt.status = true)
    (hretries : f.delay < pending.config.retries) (hp : pending.TakesBlockPolls f p)
    (hhead : f.headAfter p < UInt64.size) (hpolls : p ≤ polls) :
    pending.Settles (answerAt (Node.receipt pending.hash).run c)
      (answerAt Node.blockNumber.run
        (stateAfter (Node.receipt pending.hash).run (f.delay + 1) c)) polls
      (f.delay + 1) p (some (.ok (pending.view f.receipt))) := by
  have hfinds : pending.Finds (answerAt (Node.receipt pending.hash).run c) f.delay f.receipt :=
    ⟨hretries, fun _ => hc.lacksReceipt, hc.answerAt_delay⟩
  by_cases hconfirmations : pending.config.confirmations ≤ 1
  · rw [TakesBlockPolls, if_pos hconfirmations] at hp
    subst hp
    exact .included hfinds hstatus hconfirmations
  · rw [TakesBlockPolls, if_neg hconfirmations] at hp
    obtain ⟨⟨hpos, hdeep⟩, hleast⟩ := hp
    obtain ⟨p, rfl⟩ := Nat.exists_eq_add_of_le' hpos
    have hleft := hc.stateAfter_receipt (f.delay + 1)
    have hanswer {i : Nat} (hi : i ≤ p) :
        answerAt Node.blockNumber.run
          (stateAfter (Node.receipt pending.hash).run (f.delay + 1) c) i =
          .ok (f.headAfter (i + 1)) :=
      hleft.answerAt_blockNumber ((f.headAfter_mono (Nat.succ_le_succ hi)).trans_lt hhead)
    refine .confirmed hfinds ⟨hstatus, not_le.mp hconfirmations⟩ hpolls ?_ (hanswer le_rfl) hdeep
    intro i hi
    rw [hanswer hi.le]
    -- a head that is deep enough would have ended the wait before
    by_contra hlacks
    exact (hleast ⟨Nat.le_add_left _ _, not_lt.mp hlacks⟩).not_gt (Nat.succ_lt_succ hi)

lemma settles_of_retries_le (hc : c.Meets pending.hash f)
    (hretries : pending.config.retries ≤ f.delay) (blocks : Nat → Except RpcError Nat)
    (polls : Nat) :
    pending.Settles
      (answerAt (Node.receipt pending.hash).run c) blocks polls pending.config.retries 0
      (some (.error (.notIncluded pending.hash pending.config.retries))) :=
  .notIncluded fun _ hi => hc.lacksReceipt (hi.trans_le hretries)

/-- How a wait goes by a forecast. -/
structure GoesBy (pending : PendingInclusion ρ) (c : SimulatedChain) (f : Forecast) : Prop where
  included : f.delay < pending.config.retries → ∃ p, pending.TakesBlockPolls f p ∧
    (f.headAfter p < UInt64.size → ∀ polls, p ≤ polls → ∃ waited,
      pending.Ends polls c (f.delay + 1) p waited ∧ waited.result = .ok (pending.view f.receipt) ∧
        waited.elapsed pending.config =
          (f.delay + max p 1 - 1) * min pending.config.interval longestSleep)
  notIncluded : pending.config.retries ≤ f.delay → ∀ polls, ∃ waited,
    pending.Ends polls c pending.config.retries 0 waited ∧
      waited.result = .error (.notIncluded pending.hash pending.config.retries)

lemma goesBy_of_meets (hc : c.Meets pending.hash f) (hstatus : f.receipt.status = true)
    (hblocks : 0 < f.blocksPerPoll) : pending.GoesBy c f where
  included := by
    intro hretries
    obtain ⟨p, hp⟩ := pending.exists_takesBlockPolls hblocks
    refine ⟨p, hp, fun hhead polls hpolls => ⟨_, ends_of_settles
      (settles_of_lt_retries hc hstatus hretries hp hhead hpolls), rfl, ?_⟩⟩
    have hsleeps : f.delay + 1 - 1 + (p - 1) = f.delay + max p 1 - 1 := by omega
    rw [Waited.elapsed, InclusionConfig.sleep, hsleeps]
  notIncluded hretries polls :=
    ⟨_, ends_of_settles (settles_of_retries_le hc hretries _ polls), rfl⟩

/-- A wait for a transaction that succeeds ends as forecast. If the receipt shows before the retries
are used up, the wait makes one poll more than fail or miss it, then as many for the latest block as
it takes, and sleeps between two polls of the same kind. Else it makes all its polls for the
receipt, and what is left of the failures and misses decides about another wait in the same way. -/
theorem wait_goesBy_forecast (hc : c.Meets pending.hash f) (hstatus : f.receipt.status = true)
    (hblocks : 0 < f.blocksPerPoll) :
    pending.GoesBy c f ∧
      (pending.config.retries ≤ f.delay → ∀ polls,
        let left := ((pending.wait polls).run c).2
        left.Meets pending.hash (f.afterReceipts pending.config.retries) ∧
          ∀ again : PendingInclusion ρ', again.hash = pending.hash →
            again.GoesBy left (f.afterReceipts pending.config.retries)) := by
  refine ⟨goesBy_of_meets hc hstatus hblocks, fun hretries polls => ?_⟩
  intro left
  have hleft : left.Meets pending.hash (f.afterReceipts pending.config.retries) := by
    have hrun := run_wait_of_settles (settles_of_retries_le hc hretries _ polls)
    simp only [left, hrun]
    exact hc.stateAfter_receipt _
  exact ⟨hleft, fun again hagain => goesBy_of_meets (hagain ▸ hleft) hstatus hblocks⟩

/-- Two failures use up the retries of a wait. A miss is left for another one, which then waits for
two blocks more. -/
theorem wait_goesBy_forecast_twice :
    let chain : SimulatedChain := { head := 50, blocksPerPoll := 2 }
    let c := (chain.failReceiptPolls 2 "connection reset").mineAfter 5 1 50 true
    let receipt : Receipt := { hash := 5, block := 50, status := true, gasUsed := 21000 }
    let f : Forecast := { failures := 2, misses := 1, receipt, head := 50, blocksPerPoll := 2 }
    let pending : PendingInclusion Receipt := { hash := 5, config := { retries := 2 }, view := id }
    let again : PendingInclusion Receipt :=
      { hash := 5, config := { confirmations := 4 }, view := id }
    c.Meets 5 f ∧
      (∃ waited, pending.Ends 0 c 2 0 waited ∧ waited.result = .error (.notIncluded 5 2)) ∧
      ∃ waited, again.Ends 9 ((pending.wait 0).run c).2 2 2 waited ∧ waited.result = .ok receipt ∧
        waited.elapsed again.config = 2 * 6000 := by
  intro chain c receipt f pending again
  have hmeets : c.Meets 5 f :=
    SimulatedChain.meets_mineAfter chain rfl 5 2 1 50 true (by decide +kernel)
  obtain ⟨hgoes, hleft⟩ : pending.GoesBy c f ∧ _ := wait_goesBy_forecast hmeets rfl (by decide)
  refine ⟨hmeets, hgoes.notIncluded (by decide) 0, ?_⟩
  obtain ⟨p, hp, hwaits⟩ := ((hleft (by decide) 0).2 again rfl).included (by decide)
  have htwo : again.TakesBlockPolls (f.afterReceipts 2) 2 := by
    rw [TakesBlockPolls, if_neg (by decide)]
    refine ⟨by decide, fun p hp => ?_⟩
    have hdeep : 50 + 4 - 1 ≤ 50 + p * 2 := hp.2
    omega
  obtain rfl := hp.unique htwo
  exact hwaits (by decide) 9 (by decide)

/-- An interval of more than thirty years is not slept out after a miss. -/
theorem elapsed_ne_of_long_interval_after_miss :
    let c := ({ blocksPerPoll := 1 } : SimulatedChain).mineAfter 5 1 50 true
    let config : InclusionConfig := { retries := 2, interval := longestSleep + 1 }
    let pending : PendingInclusion Receipt := { hash := 5, config, view := id }
    ∃ waited, pending.Ends 0 c 2 0 waited ∧
      waited.result = .ok { hash := 5, block := 50, status := true, gasUsed := 21000 } ∧
      waited.elapsed config ≠ (0 + 1 + max 0 1 - 1) * config.interval := by
  refine ⟨_, ⟨[.ok none, .ok (some _)], [], _, rfl, rfl, rfl⟩, rfl, ?_⟩
  decide

end PendingInclusion

end ContractCalls
