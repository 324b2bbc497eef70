import ContractCalls.Proofs.Multicall.Sending

/-!
# What the node is asked for an aggregate

Whether an aggregate is dispatched is settled before the node is asked anything. If it is, all that
the node gets is the request for its calls: to be simulated, to be filled, or in a signed
transaction.
-/

namespace ContractCalls

/-- The exchange takes a request to the node. A signed transaction does so with what the request
lacked. -/
def Exchange.Takes (signer : Signer) (r : CallRequest) : Exchange → Prop
  | .call request _ _ _ _ | .fill request _ => request = r
  | .sendRaw raw _ =>
    ∃ tx signed, r.IsFilledTo tx.request ∧ signer.sign tx = .ok signed ∧ raw = signed.raw
  | _ => False

section

variable {r : CallRequest} {client : Client} {signer : Signer} {log : List Exchange}

lemma CallRequest.Signing.takes {result : Except SendError SignedTransaction}
    (h : r.Signing client signer log result) : ∀ x ∈ log, x.Takes signer r := by
  cases h with
  | complete => simp
  | unfilled | incomplete | filled => exact List.forall_mem_singleton.mpr rfl

lemma SignedTransaction.Submission.exists_eq_sendRaw {signed : SignedTransaction}
    {result : Except ContractError Hash} (h : signed.Submission client log result) :
    ∃ answer, log = [.sendRaw signed.raw answer] := by
  cases h with
  | accepted | known | refused => exact ⟨_, rfl⟩

lemma CallRequest.Sending.takes {result : Except SendError Hash}
    (h : r.Sending client signer log result) : ∀ x ∈ log, x.Takes signer r := by
  cases h with
  | unsigned hsign => exact hsign.takes
  | submitted hsign hsubmit =>
    obtain ⟨-, tx, hfilled, hsigned⟩ := hsign.of_ok
    obtain ⟨answer, rfl⟩ := hsubmit.exists_eq_sendRaw
    rw [List.forall_mem_append]
    exact ⟨hsign.takes, List.forall_mem_singleton.mpr ⟨tx, _, hfilled, hsigned, rfl⟩⟩

end

namespace AggregateOf

/-- How a dispatch goes. Without calls, or with a value set that is not their total, the node is
asked nothing. Else it is asked, and all that it gets is the request for the calls, in whoever's
name. -/
inductive Dispatching {α : Type} (a : Aggregate) (signer : Signer) :
    List Exchange → Except AggregateError α → Prop where
  | empty (hentries : a.entries = []) : a.Dispatching signer [] (.error .empty)
  | refused (hentries : a.entries ≠ []) (hwrong : a.HasWrongValue) :
      a.Dispatching signer [] (.error (.valueMismatch a.request.value a.totalValue))
  | asked {log : List Exchange} {result : Except AggregateError α} (hentries : a.entries ≠ [])
      (hright : ¬a.HasWrongValue) (hlog : log ≠ [])
      (htakes : ∀ x ∈ log, ∃ sender, x.Takes signer { a.totalRequest with sender }) :
      a.Dispatching signer log result

variable {a : Aggregate} {signer : Signer} {log : List Exchange} {α : Type}

lemma Dispatching.of_prepare_error (ha : a.ForAggregates IsSound) {err : AggregateError}
    (hprepare : a.prepare = .error err) :
    a.Dispatching signer [] (.error err : Except AggregateError α) := by
  by_cases hentries : a.entries = []
  · obtain rfl := Except.error.inj ((prepare_of_empty hentries).symm.trans hprepare)
    exact .empty hentries
  · rcases prepare_of_not_empty ha hentries with ⟨hwrong, hmismatch⟩ | ⟨-, hok⟩
    · obtain rfl := Except.error.inj (hmismatch.symm.trans hprepare)
      exact .refused hentries hwrong
    · cases hok.symm.trans hprepare

lemma Dispatching.of_prepare_ok (ha : a.ForAggregates IsSound) {request : CallRequest}
    (hprepare : a.prepare = .ok request) {result : Except AggregateError α} (hlog : log ≠ [])
    (htakes : ∀ x ∈ log, ∃ sender, x.Takes signer { request with sender }) :
    a.Dispatching signer log result := by
  have hentries : a.entries ≠ [] :=
    fun hempty => by cases (prepare_of_empty hempty).symm.trans hprepare
  rcases prepare_of_not_empty ha hentries with ⟨-, hmismatch⟩ | ⟨hright, hok⟩
  · cases hmismatch.symm.trans hprepare
  · obtain rfl := Except.ok.inj (hok.symm.trans hprepare)
    exact .asked hentries hright hlog htakes

/-- A value that is not the total of the calls is refused. -/
lemma Dispatching.eq_valueMismatch {result : Except AggregateError α}
    (h : a.Dispatching signer log result) (hentries : a.entries ≠ []) (hwrong : a.HasWrongValue) :
    log = [] ∧ result = .error (.valueMismatch a.request.value a.totalValue) := by
  cases h with
  | empty hempty => exact absurd hempty hentries
  | refused => exact ⟨rfl, rfl⟩
  | asked _ hright => exact absurd hwrong hright

/-- With calls, and with no value set but their total, the node is asked. -/
lemma Dispatching.takes_totalRequest {result : Except AggregateError α}
    (h : a.Dispatching signer log result) (hentries : a.entries ≠ []) (hright : ¬a.HasWrongValue) :
    log ≠ [] ∧ ∀ x ∈ log, ∃ sender, x.Takes signer { a.totalRequest with sender } := by
  cases h with
  | empty hempty => exact absurd hempty hentries
  | refused _ hwrong => exact absurd hwrong hright
  | asked _ _ hlog htakes => exact ⟨hlog, htakes⟩

lemma Sending.dispatching (ha : a.ForAggregates IsSound)
    {sent : Dispatched (PendingInclusion Receipt)} (h : a.Sending signer log sent) :
    a.Dispatching signer log sent.result := by
  cases h with
  | unprepared hprepare => exact .of_prepare_error ha hprepare
  | refused hprepare err =>
    exact .of_prepare_ok ha hprepare (List.cons_ne_nil _ _) (List.forall_mem_singleton.mpr ⟨_, rfl⟩)
  | unsent hprepare hsend | sent hprepare hsend =>
    refine .of_prepare_ok ha hprepare (List.cons_ne_nil _ _) ?_
    exact List.forall_mem_cons.mpr ⟨⟨_, rfl⟩, fun x hx => ⟨_, hsend.takes x hx⟩⟩

variable {σ : Type} [Node σ]

lemma records_call (ha : a.ForAggregates IsSound) (signer : Signer) :
    Records (a.call : StateM (Recorded σ) (Dispatched AggregateOutput))
      (a.call : StateM σ (Dispatched AggregateOutput))
      fun log called => a.Dispatching signer log called.result := by
  rw [call, call]
  cases hprepare : a.prepare with
  | error err => exact .pure (.of_prepare_error ha hprepare)
  | ok request =>
    refine .bind (a.client.records_simulate _ _) ?_
    rintro log result ⟨answer, rfl, rfl⟩
    cases answer with
    | error err | ok data =>
      refine .pure (.of_prepare_ok ha hprepare (List.cons_ne_nil _ _) ?_)
      exact List.forall_mem_singleton.mpr ⟨request.sender, rfl⟩

lemma records_send_dispatching [LawfulNode σ] (ha : a.ForAggregates IsSound) (signer : Signer) :
    Records (a.send signer : StateM (Recorded σ) (Dispatched (PendingInclusion Receipt)))
      (a.send signer : StateM σ (Dispatched (PendingInclusion Receipt)))
      fun log sent => a.Dispatching signer log sent.result :=
  (a.records_send signer).imp fun _ _ h => h.dispatching ha

end AggregateOf

end ContractCalls
