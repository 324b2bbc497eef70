import ContractCalls.Call
import ContractCalls.Proofs.Except
import ContractCalls.Proofs.Node.Filling
import ContractCalls.Proofs.Node.Recording

/-!
# Sending calls

A call is sent in up to three steps: the node fills its request if something is missing, the signer
signs the transaction, the node takes it. What has been asked of the node at each end of this, and
with which result.
-/

namespace ContractCalls

/-- A submission that the node accepts, now or because it knows the transaction already. -/
def Exchange.Accepts : Exchange → Prop
  | .sendRaw _ (.ok _) => True
  | .sendRaw _ (.error err) => err.kind = .alreadyKnown
  | _ => False

/-- How a signed transaction is submitted: it is accepted, known already or refused. -/
inductive SignedTransaction.Submission (signed : SignedTransaction) (client : Client) :
    List Exchange → Except ContractError Hash → Prop where
  | accepted (hash : Hash) : signed.Submission client [.sendRaw signed.raw (.ok hash)] (.ok hash)
  | known {err : RpcError} (hknown : err.kind = .alreadyKnown) :
      signed.Submission client [.sendRaw signed.raw (.error err)] (.ok signed.hash)
  | refused {err : RpcError} (hrefused : err.kind ≠ .alreadyKnown) :
      signed.Submission client [.sendRaw signed.raw (.error err)]
        (.error (client.errors.translate err))

namespace CallRequest

/-- How a request becomes a signed transaction: as it is if it lacks nothing, and else as the node
fills it. -/
inductive Signing (r : CallRequest) (client : Client) (signer : Signer) :
    List Exchange → Except SendError SignedTransaction → Prop where
  | complete {tx : UnsignedTransaction} (htx : r.unsigned = some tx) :
      r.Signing client signer [] ((signer.sign tx).mapError .signer)
  | unfilled (err : RpcError) :
      r.Signing client signer [.fill r (.error err)]
        (.error (.contract (client.errors.translate err)))
  | incomplete {filled : CallRequest} (hlacking : filled.unsigned = none) :
      r.Signing client signer [.fill r (.ok filled)] (.error (.incomplete filled.describeGaps))
  | filled {filled : CallRequest} {tx : UnsignedTransaction} (hfilled : r.IsFilledTo filled)
      (htx : filled.unsigned = some tx) :
      r.Signing client signer [.fill r (.ok filled)] ((signer.sign tx).mapError .signer)

/-- How a request is sent: it is signed, and the signed transaction is submitted. -/
inductive Sending (r : CallRequest) (client : Client) (signer : Signer) :
    List Exchange → Except SendError Hash → Prop where
  | unsigned {log : List Exchange} {err : SendError}
      (hsign : r.Signing client signer log (.error err)) :
      r.Sending client signer log (.error err)
  | submitted {log log' : List Exchange} {signed : SignedTransaction}
      {result : Except ContractError Hash} (hsign : r.Signing client signer log (.ok signed))
      (hsubmit : signed.Submission client log' result) :
      r.Sending client signer (log ++ log') (result.mapError .contract)

variable {r : CallRequest} {client : Client} {signer : Signer} {log : List Exchange}

lemma unsigned_withDefaultSender (r : CallRequest) (account : Address) :
    (r.withDefaultSender account).unsigned =
      r.unsigned.map fun tx => { tx with sender := tx.sender.getD account } := by
  obtain ⟨target, sender, value, data, gas, feeFields, nonce, accessList, chainId⟩ := r
  cases gas with
  | none => rfl
  | some gas =>
    cases nonce with
    | none => rfl
    | some nonce =>
      simp only [unsigned, withDefaultSender, fees]
      cases feeFields.fees with
      | none => rfl
      | some fees => rfl

/-- Nothing is submitted before it is signed. -/
lemma Signing.not_accepts {result : Except SendError SignedTransaction}
    (h : r.Signing client signer log result) : ∀ x ∈ log, ¬x.Accepts := by
  cases h with
  | complete => simp
  | unfilled | incomplete | filled => simp [Exchange.Accepts]

/-- What is signed is the request, filled by the node or complete before. -/
lemma Signing.of_ok {signed : SignedTransaction} (h : r.Signing client signer log (.ok signed)) :
    (log = [] ∨ ∃ filled, log = [.fill r (.ok filled)]) ∧
      ∃ tx, r.IsFilledTo tx.request ∧ signer.sign tx = .ok signed := by
  -- the signer decides what the result is, so that it is no constructor in the rules
  generalize hresult : Except.ok signed = result at h
  cases h with
  | complete htx =>
    exact ⟨.inl rfl, _, .unsigned htx, Except.mapError_eq_ok_iff.mp hresult.symm⟩
  | unfilled | incomplete => cases hresult
  | filled hfilled htx =>
    exact ⟨.inr ⟨_, rfl⟩, _, hfilled.trans (.unsigned htx),
      Except.mapError_eq_ok_iff.mp hresult.symm⟩

/-- What is not sent has not been accepted. -/
lemma Sending.not_accepts {err : SendError} (h : r.Sending client signer log (.error err)) :
    ∀ x ∈ log, ¬x.Accepts := by
  generalize hresult : Except.error err = result at h
  cases h with
  | unsigned hsign => exact hsign.not_accepts
  | submitted hsign hsubmit =>
    rw [List.forall_mem_append]
    refine ⟨hsign.not_accepts, ?_⟩
    cases hsubmit with
    | accepted | known => cases hresult
    | refused hrefused => simpa [Exchange.Accepts] using hrefused

/-- What is sent is submitted once, as the last thing, and accepted. -/
lemma Sending.of_ok {hash : Hash} (h : r.Sending client signer log (.ok hash)) :
    ∃ fills tx signed answer, log = fills ++ [.sendRaw signed.raw answer] ∧
      (fills = [] ∨ ∃ filled, fills = [.fill r (.ok filled)]) ∧
      r.IsFilledTo tx.request ∧ signer.sign tx = .ok signed ∧
      (answer = .ok hash ∨
        ∃ err, answer = .error err ∧ err.kind = .alreadyKnown ∧ hash = signed.hash) := by
  generalize hresult : Except.ok hash = result at h
  cases h with
  | unsigned hsign => cases hresult
  | submitted hsign hsubmit =>
    obtain ⟨hfills, tx, hfilled, hsigned⟩ := hsign.of_ok
    cases hsubmit with
    | accepted hash' =>
      obtain rfl := Except.ok.inj hresult
      exact ⟨_, tx, _, _, rfl, hfills, hfilled, hsigned, .inl rfl⟩
    | known hknown =>
      obtain rfl := Except.ok.inj hresult
      exact ⟨_, tx, _, _, rfl, hfills, hfilled, hsigned, .inr ⟨_, rfl, hknown, rfl⟩⟩
    | refused hrefused => cases hresult

end CallRequest

variable {σ : Type} [Node σ]

namespace Client

/-- A simulation is one request. -/
lemma records_simulate (client : Client) (request : CallRequest) (options : CallOptions) :
    Records (client.simulate request options : ContractM (Recorded σ) Bytes).run
      (client.simulate request options : ContractM σ Bytes).run fun log result =>
        ∃ answer, log = [.call request (options.block.getD client.config.defaultBlock)
          options.stateOverrides options.blockOverrides answer] ∧
          result = answer.mapError client.errors.translate := by
  refine (Records.adapt client.errors.translate (.record _ _)).imp ?_
  rintro log result ⟨answer, ⟨hlog, -⟩, hresult⟩
  exact ⟨answer, hlog, hresult⟩

/-- What the answer to a submission comes to. -/
def submitted (client : Client) (signed : SignedTransaction) :
    Except RpcError Hash → Except ContractError Hash
  | .ok hash => .ok hash
  | .error err =>
    if err.kind = .alreadyKnown then .ok signed.hash else .error (client.errors.translate err)

lemma submit_eq (client : Client) (signed : SignedTransaction) :
    (client.submit signed : ContractM σ Hash).run =
      (Node.sendRaw signed.raw : Query σ Hash).run >>= fun answer =>
        pure (client.submitted signed answer) := by
  funext s
  change client.submit signed s = (client.submitted signed (Node.sendRaw signed.raw s).1,
    (Node.sendRaw signed.raw s).2)
  rw [submit]
  split
  · next hanswer => rw [hanswer, submitted]
  · next hanswer =>
    rw [hanswer, submitted]
    split <;> rfl

lemma submission_submitted (client : Client) (signed : SignedTransaction)
    (answer : Except RpcError Hash) :
    signed.Submission client [.sendRaw signed.raw answer] (client.submitted signed answer) := by
  cases answer with
  | ok hash => exact .accepted hash
  | error err =>
    rw [submitted]
    split
    · next hknown => exact .known hknown
    · next hrefused => exact .refused hrefused

/-- What becomes of the transaction once the node has answered what it makes of the request. -/
def signFilled (client : Client) (signer : Signer) :
    Except RpcError CallRequest → Except SendError SignedTransaction
  | .error err => .error (.contract (client.errors.translate err))
  | .ok filled =>
    match filled.unsigned with
    | none => .error (.incomplete filled.describeGaps)
    | some tx => (signer.sign tx).mapError .signer

/-- A submission is one request, and its answer decides. -/
lemma records_submitted (client : Client) (signed : SignedTransaction) :
    Records (client.submit signed : ContractM (Recorded σ) Hash).run
      (client.submit signed : ContractM σ Hash).run fun log result =>
        ∃ answer, log = [.sendRaw signed.raw answer] ∧ result = client.submitted signed answer := by
  rw [submit_eq, submit_eq]
  refine .bind (.record _ _) ?_
  rintro log answer ⟨rfl, -⟩
  exact .pure ⟨answer, rfl, rfl⟩

lemma records_submit (client : Client) (signed : SignedTransaction) :
    Records (client.submit signed : ContractM (Recorded σ) Hash).run
      (client.submit signed : ContractM σ Hash).run (signed.Submission client) := by
  refine (client.records_submitted signed).imp ?_
  rintro log result ⟨answer, rfl, rfl⟩
  exact client.submission_submitted signed answer

end Client

/-! ### Sending -/

namespace WriteCall

variable {ρ : Type} (call : WriteCall ρ) (client : Client) (signer : Signer)

/-- The signed transaction that a call is sent as. -/
def obtainSigned : SendM σ SignedTransaction := do
  match ← MonadExcept.ofExcept (call.sign signer) with
  | some signed => return signed
  | none => call.fillAndSign client signer

lemma send_eq : (call.send client signer : SendM σ (PendingInclusion ρ)) =
    call.obtainSigned client signer >>= fun signed =>
      (client.submit signed).adapt SendError.contract >>= fun hash =>
        pure { hash, config := client.config.inclusion, view := call.view } := by
  rw [send, obtainSigned, bind_assoc]
  refine bind_congr fun signed => ?_
  cases signed with
  | none => rfl
  | some signed => rfl

lemma obtainSigned_of_complete {tx : UnsignedTransaction}
    (htx : (call.call.request.withDefaultSender signer.address).unsigned = some tx) :
    (call.obtainSigned client signer : SendM σ SignedTransaction) =
      MonadExcept.ofExcept ((signer.sign tx).mapError .signer) := by
  rw [CallRequest.unsigned_withDefaultSender, Option.map_eq_some_iff] at htx
  obtain ⟨tx, htx, rfl⟩ := htx
  rw [obtainSigned, sign, htx]
  dsimp only
  cases signer.sign { tx with sender := tx.sender.getD signer.address } with
  | error err => rfl
  | ok signed => rfl

lemma obtainSigned_of_lacking
    (hlacking : (call.call.request.withDefaultSender signer.address).unsigned = none) :
    (call.obtainSigned client signer : SendM σ SignedTransaction) =
      call.fillAndSign client signer := by
  rw [CallRequest.unsigned_withDefaultSender, Option.map_eq_none_iff] at hlacking
  rw [obtainSigned, sign, hlacking]
  rfl

/-- The node is asked once what it makes of a request that lacks something, and its answer
decides. -/
lemma records_fillAndSign :
    Records (call.fillAndSign client signer : SendM (Recorded σ) SignedTransaction).run
      (call.fillAndSign client signer : SendM σ SignedTransaction).run fun log result =>
        ∃ answer s, answer =
            ((Node.fill (call.call.request.withDefaultSender signer.address) :
              Query σ CallRequest).run.run s).1 ∧
          log = [.fill (call.call.request.withDefaultSender signer.address) answer] ∧
          result = client.signFilled signer answer := by
  refine .bindExcept (.adapt _ (.adapt _ (.record _ _))) ?_ ?_
  · rintro log err ⟨_, ⟨answer, ⟨rfl, s, hs⟩, rfl⟩, herr⟩
    refine ⟨answer, s, hs, rfl, ?_⟩
    cases answer with
    | ok filled => cases herr
    | error err' =>
      obtain rfl := Except.error.inj herr
      rfl
  · rintro log filled ⟨_, ⟨answer, ⟨rfl, s, hs⟩, rfl⟩, hok⟩
    have hanswer := Except.mapError_eq_ok_iff.mp (Except.mapError_eq_ok_iff.mp hok.symm)
    subst hanswer
    split
    · next hlacking =>
      refine .pure ⟨.ok filled, s, hs, rfl, ?_⟩
      rw [Client.signFilled, hlacking]
    · next tx htx =>
      refine (Records.ofExcept _).imp ?_
      rintro log result ⟨rfl, rfl⟩
      refine ⟨.ok filled, s, hs, rfl, ?_⟩
      rw [Client.signFilled, htx]

/-- A call is signed in the name of its sender, which is the signer by default. -/
lemma records_obtainSigned [LawfulNode σ] :
    Records (call.obtainSigned client signer : SendM (Recorded σ) SignedTransaction).run
      (call.obtainSigned client signer : SendM σ SignedTransaction).run
      ((call.call.request.withDefaultSender signer.address).Signing client signer) := by
  cases hunsigned : (call.call.request.withDefaultSender signer.address).unsigned with
  | some tx =>
    rw [call.obtainSigned_of_complete client signer hunsigned,
      call.obtainSigned_of_complete client signer hunsigned]
    refine (Records.ofExcept _).imp ?_
    rintro log result ⟨rfl, rfl⟩
    exact .complete hunsigned
  | none =>
    rw [call.obtainSigned_of_lacking client signer hunsigned,
      call.obtainSigned_of_lacking client signer hunsigned]
    refine (call.records_fillAndSign client signer).imp ?_
    rintro log result ⟨answer, s, hs, rfl, rfl⟩
    cases answer with
    | error err => exact .unfilled err
    | ok filled =>
      have hfilled := LawfulNode.isFilledTo _ _ s hs.symm
      rw [Client.signFilled]
      split
      · next hlacking => exact .incomplete hlacking
      · next tx htx => exact .filled hfilled htx

/-- A call is signed and then submitted. -/
lemma records_send [LawfulNode σ] :
    Records (call.send client signer : SendM (Recorded σ) (PendingInclusion ρ)).run
      (call.send client signer : SendM σ (PendingInclusion ρ)).run fun log result =>
        ∃ result',
          (call.call.request.withDefaultSender signer.address).Sending client signer log result' ∧
          result = result'.map fun hash =>
            { hash, config := client.config.inclusion, view := call.view } := by
  rw [send_eq, send_eq]
  refine .bindExcept (call.records_obtainSigned client signer) ?_ ?_
  · intro log err hsign
    exact ⟨_, .unsigned hsign, rfl⟩
  · intro log signed hsign
    refine .bindExcept (.adapt _ (client.records_submit signed)) ?_ ?_
    · rintro log' err ⟨result, hsubmit, herr⟩
      refine ⟨_, .submitted hsign hsubmit, ?_⟩
      rw [← herr]
      rfl
    · rintro log' hash ⟨result, hsubmit, hok⟩
      refine .pure ⟨result.mapError .contract, ?_, ?_⟩
      · rw [List.append_nil]
        exact .submitted hsign hsubmit
      · rw [← hok]
        rfl

end WriteCall

end ContractCalls
