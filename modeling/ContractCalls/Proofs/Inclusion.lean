import ContractCalls.Inclusion
import ContractCalls.Proofs.Node.Recording
import ContractCalls.Simulation.Chain
import Mathlib.Tactic

/-!
# Waiting for an inclusion

A wait polls for the receipt a limited number of times, and then for the latest block until that is
deep enough. The answers decide which poll is the last one of either kind, and what comes of the
wait. It sleeps between two polls of the same kind.
-/

namespace ContractCalls

variable {σ α β ρ : Type}

/-! ### Repeating a query -/

/-- The state after a query was repeated a number of times. -/
def stateAfter (query : StateM σ α) : Nat → σ → σ
  | 0, s => s
  | n + 1, s => stateAfter query n (query.run s).2

/-- The answer to the repetition of a query with a number, counted from zero. -/
def answerAt (query : StateM σ α) (s : σ) (n : Nat) : α :=
  (query.run (stateAfter query n s)).1

lemma stateAfter_succ (query : StateM σ α) (n : Nat) (s : σ) :
    stateAfter query (n + 1) s = (query.run (stateAfter query n s)).2 := by
  induction n generalizing s with
  | zero => rfl
  | succ n ih => exact ih _

lemma answerAt_zero (query : StateM σ α) (s : σ) : answerAt query s 0 = (query.run s).1 :=
  rfl

lemma forall_lt_answerAt_succ_iff {query : StateM σ α} {s : σ} {n : Nat} {p : α → Prop} :
    (∀ i < n + 1, p (answerAt query s i)) ↔
      p (query.run s).1 ∧ ∀ i < n, p (answerAt query (query.run s).2 i) := by
  rw [Nat.forall_lt_succ_left]
  rfl

/-- A recorded query changes the node as the query does, and adds its answers to the record. -/
lemma stateAfter_record (query : Query σ α) (exchange : Except RpcError α → Exchange) (n : Nat)
    (s : Recorded σ) : stateAfter (Recorded.record query exchange).run n s =
      ⟨stateAfter query.run n s.node,
        s.exchanges ++ (List.range n).map fun i => exchange (answerAt query.run s.node i)⟩ := by
  induction n generalizing s with
  | zero => simp [stateAfter]
  | succ n ih =>
    rw [stateAfter, ih, List.range_succ_eq_map, List.map_cons, List.map_map, List.append_cons]
    rfl

lemma answerAt_record (query : Query σ α) (exchange : Except RpcError α → Exchange) (s : Recorded σ)
    (n : Nat) :
    answerAt (Recorded.record query exchange).run s n = answerAt query.run s.node n := by
  rw [answerAt, stateAfter_record]
  rfl

/-! ### Polling -/

section Poll

variable {query : StateM σ α} {decided : α → Option β}

lemma run_poll_succ (times : Nat) (s : σ) :
    (poll query decided (times + 1)).run s =
      match decided (query.run s).1 with
      | some outcome => ((some outcome, 0), (query.run s).2)
      | none =>
        if times = 0 then ((none, 0), (query.run s).2)
        else
          let rest := (poll query decided times).run (query.run s).2
          ((rest.1.1, rest.1.2 + 1), rest.2) := by
  rw [poll, StateT.run_bind]
  change StateT.run (match decided (query.run s).1 with
    | some outcome => pure (some outcome, 0)
    | none => _) (query.run s).2 = _
  cases decided (query.run s).1 with
  | some outcome => rfl
  | none =>
    by_cases htimes : times = 0
    · simp only [htimes, if_true]
      rfl
    · simp only [htimes, if_false]
      rfl

/-- The first answer that decides is the last one that is asked for. -/
lemma run_poll_of_some {times j : Nat} {outcome : β} (hj : j < times) {s : σ}
    (hbefore : ∀ i < j, decided (answerAt query s i) = none)
    (hdecided : decided (answerAt query s j) = some outcome) :
    (poll query decided times).run s = ((some outcome, j), stateAfter query (j + 1) s) := by
  induction j generalizing times s with
  | zero =>
    obtain ⟨times, rfl⟩ := Nat.exists_eq_succ_of_ne_zero hj.ne'
    rw [answerAt_zero] at hdecided
    rw [run_poll_succ, hdecided]
    rfl
  | succ j ih =>
    obtain ⟨times, rfl⟩ := Nat.exists_eq_succ_of_ne_zero (Nat.ne_zero_of_lt hj)
    obtain ⟨hfirst, hbefore⟩ := (forall_lt_answerAt_succ_iff (p := (decided · = none))).mp hbefore
    have hrest := ih (Nat.lt_of_succ_lt_succ hj) hbefore hdecided
    have htimes : times ≠ 0 := Nat.ne_zero_of_lt (Nat.lt_of_succ_lt_succ hj)
    rw [run_poll_succ, hfirst]
    simp only [htimes, if_false, hrest]
    rfl

/-- If no answer decides, all polls are made, and nothing is slept after the last one. -/
lemma run_poll_of_none {times : Nat} {s : σ}
    (hbefore : ∀ i < times, decided (answerAt query s i) = none) :
    (poll query decided times).run s = ((none, times - 1), stateAfter query times s) := by
  induction times generalizing s with
  | zero => rfl
  | succ times ih =>
    obtain ⟨hfirst, hbefore⟩ := (forall_lt_answerAt_succ_iff (p := (decided · = none))).mp hbefore
    rw [run_poll_succ, hfirst]
    by_cases htimes : times = 0
    · subst htimes
      rfl
    · simp only [htimes, if_false, ih hbefore, stateAfter, Nat.add_sub_cancel]
      rw [Nat.sub_add_cancel (Nat.one_le_iff_ne_zero.mpr htimes)]

/-- Some answer is the first one that decides, or none does. -/
lemma exists_first_decided (decided : α → Option β) (answers : Nat → α) (times : Nat) :
    (∃ j < times, ∃ outcome, decided (answers j) = some outcome ∧
      ∀ i < j, decided (answers i) = none) ∨ ∀ i < times, decided (answers i) = none := by
  induction times with
  | zero => exact .inr (by simp)
  | succ times ih =>
    rcases ih with ⟨j, hj, hfirst⟩ | hbefore
    · exact .inl ⟨j, hj.trans (Nat.lt_succ_self _), hfirst⟩
    · cases hlast : decided (answers times) with
      | some outcome => exact .inl ⟨times, Nat.lt_succ_self _, outcome, hlast, hbefore⟩
      | none => exact .inr (Nat.forall_lt_succ_right.mpr ⟨hbefore, hlast⟩)

end Poll

/-! ### Answers that let a wait go on -/

/-- There is no receipt yet, or the network has failed. -/
def LacksReceipt : Except RpcError (Option Receipt) → Prop
  | .ok receipt => receipt = none
  | .error err => err.kind.isRetryable

/-- The latest block comes before a given one, or the network has failed. -/
def LacksBlock (block : Nat) : Except RpcError Nat → Prop
  | .ok latest => latest < block
  | .error err => err.kind.isRetryable

/-- An error decides unless it passes by itself. -/
lemma ite_retryable_eq_some_error_iff {found err : RpcError} :
    (if found.kind.isRetryable then none else some (.error found : Except RpcError α)) =
      some (.error err) ↔ found = err ∧ err.kind.isRetryable = false := by
  rw [Option.ite_none_left_eq_some, Option.some.injEq, Except.error.injEq, Bool.not_eq_true]
  constructor
  · rintro ⟨hretryable, rfl⟩
    exact ⟨rfl, hretryable⟩
  · rintro ⟨rfl, hretryable⟩
    exact ⟨hretryable, rfl⟩

lemma receiptDecided_eq_none_iff {answer : Except RpcError (Option Receipt)} :
    receiptDecided answer = none ↔ LacksReceipt answer := by
  cases answer with
  | ok receipt => simp [receiptDecided, LacksReceipt]
  | error err => simp [receiptDecided, LacksReceipt]

lemma receiptDecided_eq_ok_iff {answer : Except RpcError (Option Receipt)} {receipt : Receipt} :
    receiptDecided answer = some (.ok receipt) ↔ answer = .ok (some receipt) := by
  cases answer with
  | ok found => simp [receiptDecided]
  | error err => simp [receiptDecided]

lemma receiptDecided_eq_error_iff {answer : Except RpcError (Option Receipt)} {err : RpcError} :
    receiptDecided answer = some (.error err) ↔
      answer = .error err ∧ err.kind.isRetryable = false := by
  cases answer with
  | ok found => simp [receiptDecided]
  | error found =>
    rw [receiptDecided, ite_retryable_eq_some_error_iff, Except.error.injEq]

/-- A depth is counted from the block of the receipt, so that one of zero would be reached before
it. -/
lemma depthDecided_eq_none_iff {block depth : Nat} (hdepth : 0 < depth)
    {answer : Except RpcError Nat} :
    depthDecided block depth answer = none ↔ LacksBlock (block + depth) answer := by
  cases answer with
  | ok latest =>
    simp only [depthDecided, LacksBlock, ite_eq_right_iff, reduceCtorEq, imp_false]
    omega
  | error err => simp [depthDecided, LacksBlock]

lemma depthDecided_eq_ok_iff {block depth : Nat} (hdepth : 0 < depth)
    {answer : Except RpcError Nat} : depthDecided block depth answer = some (.ok ()) ↔
      ∃ latest, answer = .ok latest ∧ block + depth ≤ latest := by
  cases answer with
  | ok latest =>
    simp only [depthDecided, Option.ite_none_right_eq_some, and_true, Except.ok.injEq,
      exists_eq_left']
    omega
  | error err => simp [depthDecided]

lemma depthDecided_eq_error_iff {block depth : Nat} {answer : Except RpcError Nat}
    {err : RpcError} : depthDecided block depth answer = some (.error err) ↔
      answer = .error err ∧ err.kind.isRetryable = false := by
  cases answer with
  | ok latest => simp [depthDecided]
  | error found =>
    rw [depthDecided, ite_retryable_eq_some_error_iff, Except.error.injEq]

/-! ### The law of waiting -/

namespace PendingInclusion

/-- The answer to the poll for the receipt with number `j` is a receipt, and no answer before it, of
those that are allowed, has ended the wait. -/
structure Finds (pending : PendingInclusion ρ) (receipts : Nat → Except RpcError (Option Receipt))
    (j : Nat) (receipt : Receipt) : Prop where
  lt_retries : j < pending.config.retries
  lacksReceipt : ∀ i < j, LacksReceipt (receipts i)
  answer_eq : receipts j = .ok (some receipt)

/-- The transaction has succeeded, but has to be more than one block deep. -/
structure NeedsDepth (pending : PendingInclusion ρ) (receipt : Receipt) : Prop where
  status : receipt.status = true
  one_lt_confirmations : 1 < pending.config.confirmations

/-- The block that makes the transaction deep enough, its own block being the first. -/
def deepBlock (pending : PendingInclusion ρ) (receipt : Receipt) : Nat :=
  receipt.block + pending.config.confirmations - 1

/-- What comes of a wait by the answers to its polls for the receipt and then for the latest block,
after how many polls of either kind. The wait has no result if `polls` answers about the latest
block all let it go on. -/
inductive Settles (pending : PendingInclusion ρ) (receipts : Nat → Except RpcError (Option Receipt))
    (blocks : Nat → Except RpcError Nat) (polls : Nat) :
    (receiptPolls blockPolls : Nat) → Option (Except InclusionError ρ) → Prop where
  | notIncluded (hlacks : ∀ i < pending.config.retries, LacksReceipt (receipts i)) :
      pending.Settles receipts blocks polls pending.config.retries 0
        (some (.error (.notIncluded pending.hash pending.config.retries)))
  | receiptError {j : Nat} {err : RpcError} (hj : j < pending.config.retries)
      (hlacks : ∀ i < j, LacksReceipt (receipts i)) (hanswer : receipts j = .error err)
      (hfinal : err.kind.isRetryable = false) :
      pending.Settles receipts blocks polls (j + 1) 0 (some (.error (.provider err)))
  | reverted {j : Nat} {receipt : Receipt} (hfinds : pending.Finds receipts j receipt)
      (hstatus : receipt.status = false) :
      pending.Settles receipts blocks polls (j + 1) 0
        (some (.error (.reverted pending.hash receipt.block)))
  | included {j : Nat} {receipt : Receipt} (hfinds : pending.Finds receipts j receipt)
      (hstatus : receipt.status = true) (hconfirmations : pending.config.confirmations ≤ 1) :
      pending.Settles receipts blocks polls (j + 1) 0 (some (.ok (pending.view receipt)))
  | blockError {j k : Nat} {receipt : Receipt} {err : RpcError}
      (hfinds : pending.Finds receipts j receipt) (hneeds : pending.NeedsDepth receipt)
      (hk : k < polls) (hlacks : ∀ i < k, LacksBlock (pending.deepBlock receipt) (blocks i))
      (hanswer : blocks k = .error err) (hfinal : err.kind.isRetryable = false) :
      pending.Settles receipts blocks polls (j + 1) (k + 1) (some (.error (.provider err)))
  | confirmed {j k latest : Nat} {receipt : Receipt} (hfinds : pending.Finds receipts j receipt)
      (hneeds : pending.NeedsDepth receipt) (hk : k < polls)
      (hlacks : ∀ i < k, LacksBlock (pending.deepBlock receipt) (blocks i))
      (hanswer : blocks k = .ok latest) (hdeep : pending.deepBlock receipt ≤ latest) :
      pending.Settles receipts blocks polls (j + 1) (k + 1) (some (.ok (pending.view receipt)))
  | waiting {j : Nat} {receipt : Receipt} (hfinds : pending.Finds receipts j receipt)
      (hneeds : pending.NeedsDepth receipt)
      (hlacks : ∀ i < polls, LacksBlock (pending.deepBlock receipt) (blocks i)) :
      pending.Settles receipts blocks polls (j + 1) polls none

variable {pending : PendingInclusion ρ} {polls : Nat}

/-- The depth is counted from the block of the receipt. -/
lemma NeedsDepth.deepBlock_eq {receipt : Receipt} (hneeds : pending.NeedsDepth receipt) :
    pending.deepBlock receipt = receipt.block + (pending.config.confirmations - 1) :=
  Nat.add_sub_assoc hneeds.one_lt_confirmations.le _

lemma NeedsDepth.depth_pos {receipt : Receipt} (hneeds : pending.NeedsDepth receipt) :
    0 < pending.config.confirmations - 1 :=
  Nat.sub_pos_of_lt hneeds.one_lt_confirmations

/-- The answers about the latest block, too, end the wait at some place or let it go on. -/
lemma exists_settles_of_needsDepth {receipts : Nat → Except RpcError (Option Receipt)} {j : Nat}
    {receipt : Receipt} (hfinds : pending.Finds receipts j receipt)
    (hneeds : pending.NeedsDepth receipt) (blocks : Nat → Except RpcError Nat) (polls : Nat) :
    ∃ n outcome, pending.Settles receipts blocks polls (j + 1) n outcome := by
  rcases exists_first_decided (depthDecided receipt.block (pending.config.confirmations - 1)) blocks
    polls with ⟨k, hk, outcome, hdecided, hbefore⟩ | hbefore
  · have hlacks : ∀ i < k, LacksBlock (pending.deepBlock receipt) (blocks i) := by
      rw [hneeds.deepBlock_eq]
      exact fun i hi => (depthDecided_eq_none_iff hneeds.depth_pos).mp (hbefore i hi)
    cases outcome with
    | error err =>
      obtain ⟨hanswer, hfinal⟩ := depthDecided_eq_error_iff.mp hdecided
      exact ⟨_, _, .blockError hfinds hneeds hk hlacks hanswer hfinal⟩
    | ok deep =>
      obtain ⟨latest, hanswer, hdeep⟩ := (depthDecided_eq_ok_iff hneeds.depth_pos).mp hdecided
      exact ⟨_, _, .confirmed hfinds hneeds hk hlacks hanswer (hneeds.deepBlock_eq ▸ hdeep)⟩
  · refine ⟨_, _, .waiting hfinds hneeds ?_⟩
    rw [hneeds.deepBlock_eq]
    exact fun i hi => (depthDecided_eq_none_iff hneeds.depth_pos).mp (hbefore i hi)

/-- Whatever the answers are, something comes of the wait. -/
lemma exists_settles (pending : PendingInclusion ρ)
    (receipts : Nat → Except RpcError (Option Receipt)) (blocks : Nat → Nat → Except RpcError Nat)
    (polls : Nat) : ∃ m n outcome, pending.Settles receipts (blocks m) polls m n outcome := by
  rcases exists_first_decided receiptDecided receipts pending.config.retries with
    ⟨j, hj, outcome, hdecided, hbefore⟩ | hbefore
  · have hlacks : ∀ i < j, LacksReceipt (receipts i) :=
      fun i hi => receiptDecided_eq_none_iff.mp (hbefore i hi)
    cases outcome with
    | error err =>
      obtain ⟨hanswer, hfinal⟩ := receiptDecided_eq_error_iff.mp hdecided
      exact ⟨_, _, _, .receiptError hj hlacks hanswer hfinal⟩
    | ok receipt =>
      have hfinds : pending.Finds receipts j receipt :=
        ⟨hj, hlacks, receiptDecided_eq_ok_iff.mp hdecided⟩
      cases hstatus : receipt.status with
      | false => exact ⟨_, _, _, .reverted hfinds hstatus⟩
      | true =>
        rcases Nat.lt_or_ge 1 pending.config.confirmations with hconfirmations | hconfirmations
        · exact ⟨j + 1,
            exists_settles_of_needsDepth hfinds ⟨hstatus, hconfirmations⟩ (blocks (j + 1)) polls⟩
        · exact ⟨_, _, _, .included hfinds hstatus hconfirmations⟩
  · exact ⟨_, _, _, .notIncluded fun i hi => receiptDecided_eq_none_iff.mp (hbefore i hi)⟩

section Run

variable [Node σ] {s : σ} {j : Nat} {receipt : Receipt}

/-- How a wait goes on once it has the receipt. -/
def afterReceipt (pending : PendingInclusion ρ) (polls : Nat) (receipt : Receipt) (sleeps : Nat) :
    StateM σ (Option (Waited ρ)) :=
  if !receipt.status then return some ⟨.error (.reverted pending.hash receipt.block), sleeps⟩
  else if pending.config.confirmations ≤ 1 then return some ⟨.ok (pending.view receipt), sleeps⟩
  else do
    let (deep, more) ←
      poll Node.blockNumber.run
        (depthDecided receipt.block (pending.config.confirmations - 1)) polls
    return deep.map fun result =>
      ⟨(result.mapError .provider).map fun _ => pending.view receipt, sleeps + more⟩

lemma run_wait_of_finds
    (hfinds : pending.Finds (answerAt (Node.receipt pending.hash).run s) j receipt) :
    (pending.wait polls).run s = (pending.afterReceipt polls receipt j).run
      (stateAfter (Node.receipt pending.hash).run (j + 1) s) := by
  have hpoll := run_poll_of_some hfinds.lt_retries
    (fun i hi => receiptDecided_eq_none_iff.mpr (hfinds.lacksReceipt i hi))
    (receiptDecided_eq_ok_iff.mpr hfinds.answer_eq)
  rw [wait, StateT.run_bind, hpoll, afterReceipt]
  change StateT.run (if _ then _ else if _ then _ else _ >>= _) _ = _
  congr 3
  refine bind_congr fun polled => ?_
  rcases polled with ⟨_ | _ | _, more⟩ <;> rfl

/-- Where a depth is needed, the polls for the latest block decide. -/
lemma run_wait_of_needsDepth
    (hfinds : pending.Finds (answerAt (Node.receipt pending.hash).run s) j receipt)
    (hneeds : pending.NeedsDepth receipt) {deep : Option (Except RpcError Unit)} {more : Nat}
    {s' : σ}
    (hpoll : (poll Node.blockNumber.run
      (depthDecided receipt.block (pending.config.confirmations - 1)) polls).run
        (stateAfter (Node.receipt pending.hash).run (j + 1) s) = ((deep, more), s')) :
    (pending.wait polls).run s =
      (deep.map fun result =>
        ⟨(result.mapError .provider).map fun _ => pending.view receipt, j + more⟩, s') := by
  rw [run_wait_of_finds hfinds, afterReceipt, hneeds.status, if_neg (by simp),
    if_neg hneeds.one_lt_confirmations.not_ge, StateT.run_bind, hpoll]
  rfl

/-- What comes of the answers is what the wait returns, after as many polls. -/
lemma run_wait_of_settles {m n : Nat} {outcome : Option (Except InclusionError ρ)}
    (h : pending.Settles (answerAt (Node.receipt pending.hash).run s)
      (answerAt Node.blockNumber.run (stateAfter (Node.receipt pending.hash).run m s)) polls m n
      outcome) :
    (pending.wait polls).run s = (outcome.map (⟨·, (m - 1) + (n - 1)⟩),
      stateAfter Node.blockNumber.run n (stateAfter (Node.receipt pending.hash).run m s)) := by
  cases h with
  | notIncluded hlacks =>
    have hpoll := run_poll_of_none fun i hi => receiptDecided_eq_none_iff.mpr (hlacks i hi)
    rw [wait, StateT.run_bind, hpoll]
    rfl
  | receiptError hj hlacks hanswer hfinal =>
    have hpoll := run_poll_of_some hj (fun i hi => receiptDecided_eq_none_iff.mpr (hlacks i hi))
      (receiptDecided_eq_error_iff.mpr ⟨hanswer, hfinal⟩)
    rw [wait, StateT.run_bind, hpoll]
    rfl
  | reverted hfinds hstatus =>
    rw [run_wait_of_finds hfinds, afterReceipt, hstatus]
    rfl
  | included hfinds hstatus hconfirmations =>
    rw [run_wait_of_finds hfinds, afterReceipt, hstatus, if_neg (by simp), if_pos hconfirmations]
    rfl
  | blockError hfinds hneeds hk hlacks hanswer hfinal =>
    rw [hneeds.deepBlock_eq] at hlacks
    exact run_wait_of_needsDepth hfinds hneeds (run_poll_of_some hk
      (fun i hi => (depthDecided_eq_none_iff hneeds.depth_pos).mpr (hlacks i hi))
      (depthDecided_eq_error_iff.mpr ⟨hanswer, hfinal⟩))
  | confirmed hfinds hneeds hk hlacks hanswer hdeep =>
    rw [hneeds.deepBlock_eq] at hlacks hdeep
    exact run_wait_of_needsDepth hfinds hneeds (run_poll_of_some hk
      (fun i hi => (depthDecided_eq_none_iff hneeds.depth_pos).mpr (hlacks i hi))
      ((depthDecided_eq_ok_iff hneeds.depth_pos).mpr ⟨_, hanswer, hdeep⟩))
  | waiting hfinds hneeds hlacks =>
    rw [hneeds.deepBlock_eq] at hlacks
    exact run_wait_of_needsDepth hfinds hneeds (run_poll_of_none
      fun i hi => (depthDecided_eq_none_iff hneeds.depth_pos).mpr (hlacks i hi))

/-- The record after polls for a receipt and then for the latest block. -/
lemma stateAfter_polls (hash : Hash) (m n : Nat) (s : σ) :
    stateAfter Node.blockNumber.run n
        (stateAfter (Node.receipt hash).run m (⟨s, []⟩ : Recorded σ)) =
      ⟨stateAfter Node.blockNumber.run n (stateAfter (Node.receipt hash).run m s),
        (List.range m).map (fun i => .receipt hash (answerAt (Node.receipt hash).run s i)) ++
          (List.range n).map (fun i => .blockNumber
            (answerAt Node.blockNumber.run (stateAfter (Node.receipt hash).run m s) i))⟩ := by
  have hreceipts := stateAfter_record (Node.receipt hash) (.receipt hash) m (⟨s, []⟩ : Recorded σ)
  rw [List.nil_append] at hreceipts
  calc stateAfter Node.blockNumber.run n
        (stateAfter (Node.receipt hash).run m (⟨s, []⟩ : Recorded σ))
    _ = stateAfter (Recorded.record Node.blockNumber .blockNumber).run n
          (stateAfter (Recorded.record (Node.receipt hash) (.receipt hash)).run m ⟨s, []⟩) := rfl
    _ = _ := by rw [hreceipts, stateAfter_record]

/-- A recorded node gives the same answers. -/
lemma settles_recorded {m n : Nat} {outcome : Option (Except InclusionError ρ)}
    (h : pending.Settles (answerAt (Node.receipt pending.hash).run s)
      (answerAt Node.blockNumber.run (stateAfter (Node.receipt pending.hash).run m s)) polls m n
      outcome) :
    pending.Settles (answerAt (Node.receipt pending.hash).run (⟨s, []⟩ : Recorded σ))
      (answerAt Node.blockNumber.run
        (stateAfter (Node.receipt pending.hash).run m (⟨s, []⟩ : Recorded σ))) polls m n
      outcome := by
  have hreceipts : answerAt (Node.receipt pending.hash).run (⟨s, []⟩ : Recorded σ) =
      answerAt (Node.receipt pending.hash).run s :=
    funext fun i => answerAt_record (Node.receipt pending.hash) (.receipt pending.hash) _ i
  have hblocks : answerAt Node.blockNumber.run
        (stateAfter (Node.receipt pending.hash).run m (⟨s, []⟩ : Recorded σ)) =
      answerAt Node.blockNumber.run (stateAfter (Node.receipt pending.hash).run m s) := by
    funext i
    refine (answerAt_record Node.blockNumber .blockNumber _ i).trans ?_
    exact congrArg (fun s' : Recorded σ => answerAt Node.blockNumber.run s'.node i)
      (stateAfter_polls pending.hash m 0 s)
  rw [hreceipts, hblocks]
  exact h

end Run

/-- What comes of a wait is what the answers to its polls make of it. The node is asked for the
receipt until it has one or fails for good, at most as often as there are retries. If more than one
block is needed, it is then asked for the latest block until that is deep enough or the node fails
for good. Nothing else is asked, and nothing after the poll that decides. Between two polls of the
same kind the wait sleeps for the interval, or for the longest time that is slept at once if the
interval is longer. -/
theorem wait_follows_answers [Node σ] (pending : PendingInclusion ρ) (polls : Nat) (s : σ) :
    let waited := (pending.wait polls : StateM (Recorded σ) _).run ⟨s, []⟩
    let receipts := answerAt (Node.receipt pending.hash).run s
    (pending.wait polls).run s = (waited.1, waited.2.node) ∧ ∃ m n,
      let blocks := answerAt Node.blockNumber.run (stateAfter (Node.receipt pending.hash).run m s)
      pending.Settles receipts blocks polls m n (waited.1.map (·.result)) ∧
        waited.2.exchanges = (List.range m).map (fun i => .receipt pending.hash (receipts i)) ++
          (List.range n).map (fun i => .blockNumber (blocks i)) ∧
        ∀ w ∈ waited.1,
          w.elapsed pending.config =
            min pending.config.interval longestSleep * ((m - 1) + (n - 1)) := by
  intro waited receipts
  obtain ⟨m, n, outcome, h⟩ := exists_settles pending receipts
    (fun m => answerAt Node.blockNumber.run (stateAfter (Node.receipt pending.hash).run m s)) polls
  have hplain := run_wait_of_settles h
  have hrecorded : waited = _ := run_wait_of_settles (settles_recorded h)
  rw [stateAfter_polls] at hrecorded
  rw [hrecorded]
  refine ⟨hplain, m, n, ?_, rfl, ?_⟩
  · rw [Option.map_map]
    simpa only [Function.comp_def, Option.map_id'] using h
  · intro w hw
    obtain ⟨result, -, rfl⟩ := Option.map_eq_some_iff.mp hw
    rw [Waited.elapsed, InclusionConfig.sleep, Nat.mul_comm]

/-- An interval of more than thirty years is not slept out. -/
theorem elapsed_ne_of_long_interval :
    let config : InclusionConfig := { retries := 2, interval := longestSleep + 1 }
    let pending : PendingInclusion Receipt := { hash := 0, config, view := id }
    let waited := (pending.wait 0).run (⟨({} : SimulatedChain), []⟩ : Recorded SimulatedChain)
    waited.2.exchanges.length = 2 ∧
      ∃ w, waited.1 = some w ∧ w.elapsed config ≠ config.interval * ((2 - 1) + (0 - 1)) := by
  refine ⟨rfl, _, rfl, ?_⟩
  decide

end PendingInclusion

end ContractCalls
