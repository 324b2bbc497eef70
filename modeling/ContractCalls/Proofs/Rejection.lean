import ContractCalls.Proofs.Call
import ContractCalls.Proofs.Rpc.Error
import ContractCalls.Simulation.Chain

/-!
# Rejected submissions

What becomes of a call whose transaction the node rejects. The text of the rejection alone decides.
It counts as success if it speaks of a known transaction, and it may do so where it says the
opposite.
-/

namespace ContractCalls

/-- The node rejects a submission. -/
def Exchange.Rejects (err : RpcError) : Exchange → Prop
  | .sendRaw _ answer => answer = .error err
  | _ => False

variable {σ : Type} [Node σ] {ρ : Type}

namespace Client

/-- What a rejection comes to hangs on its text. -/
lemma submitted_error (client : Client) (signed : SignedTransaction) (err : RpcError) :
    client.submitted signed (.error err) = .ok signed.hash ∧ err.kind = .alreadyKnown ∨
      client.submitted signed (.error err) = .error (client.errors.translate err) ∧
        err.kind ≠ .alreadyKnown := by
  rw [submitted]
  split
  · next hknown => exact .inl ⟨rfl, hknown⟩
  · next hrefused => exact .inr ⟨rfl, hrefused⟩

end Client

namespace WriteCall

variable (call : WriteCall ρ) (client : Client) (signer : Signer)

/-- Until a call is signed, nothing is submitted that a node could reject. -/
lemma records_obtainSigned_not_rejects :
    Records (call.obtainSigned client signer : SendM (Recorded σ) SignedTransaction).run
      (call.obtainSigned client signer : SendM σ SignedTransaction).run
      fun log _ => ∀ err, ∀ x ∈ log, ¬x.Rejects err := by
  refine .bindExcept (.ofExcept _) ?_ ?_
  · rintro log err ⟨rfl, -⟩
    simp
  · rintro log signed ⟨rfl, -⟩
    cases signed with
    | some signed => exact .pure (by simp)
    | none =>
      refine (call.records_fillAndSign client signer).imp ?_
      rintro log result ⟨answer, s, -, rfl, -⟩
      simp [Exchange.Rejects]

/-- After a rejection the call comes to what the submission does. -/
lemma records_send_of_rejects :
    Records (call.send client signer : SendM (Recorded σ) (PendingInclusion ρ)).run
      (call.send client signer : SendM σ (PendingInclusion ρ)).run fun log result =>
        ∀ err, ∀ x ∈ log, x.Rejects err → ∃ signed,
          result = ((client.submitted signed (.error err)).mapError .contract).map fun hash =>
            { hash, config := client.config.inclusion, view := call.view } := by
  rw [send_eq, send_eq]
  refine .bindExcept (call.records_obtainSigned_not_rejects client signer) ?_ ?_
  · intro log _ hnone err x hx hrejects
    exact absurd hrejects (hnone err x hx)
  · intro log signed hnone
    -- the submission is the last exchange, so that a rejection is the answer to it
    have hlast {answer : Except RpcError Hash} {err : RpcError} {x : Exchange}
        (hx : x ∈ log ++ [.sendRaw signed.raw answer]) (hrejects : x.Rejects err) :
        answer = .error err := by
      rcases List.mem_append.mp hx with hx | hx
      · exact absurd hrejects (hnone err x hx)
      · rwa [List.mem_singleton.mp hx] at hrejects
    refine .bindExcept (.adapt _ (client.records_submitted signed)) ?_ ?_
    · rintro log' err' ⟨_, ⟨answer, rfl, rfl⟩, herr⟩ err x hx hrejects
      refine ⟨signed, ?_⟩
      rw [← hlast hx hrejects, ← herr]
      rfl
    · rintro log' hash ⟨_, ⟨answer, rfl, rfl⟩, hok⟩
      refine .pure ?_
      intro err x hx hrejects
      rw [List.append_nil] at hx
      refine ⟨signed, ?_⟩
      rw [← hlast hx hrejects, ← hok]
      rfl

/-- A call whose transaction the node rejects is sent all the same if the text of the rejection has
a wording of a known transaction anywhere, and none of a revert; any other rejection is an error of
the call. So a call that is sent in spite of a rejection has a wording where it does not go on a
word, except just for those rejections that are misread. -/
theorem records_send_rejected (isLetter : Char → Bool) :
    Records (call.send client signer : SendM (Recorded σ) (PendingInclusion ρ)).run
      (call.send client signer : SendM σ (PendingInclusion ρ)).run fun log result =>
        ∀ err, ∀ x ∈ log, x.Rejects err →
          ((∃ pending, result = .ok pending) ↔
            ErrorKind.Mentions ErrorKind.knownWordings err.text ∧
              ¬ErrorKind.Mentions ErrorKind.revertWordings err.text) ∧
          ((¬∃ pending, result = .ok pending) →
            result = .error (.contract (client.errors.translate err))) ∧
          (((∃ pending, result = .ok pending) →
              ErrorKind.MentionsAlone isLetter ErrorKind.knownWordings err.text) ↔
            ¬ErrorKind.IsMisread isLetter err.text) := by
  refine (call.records_send_of_rejects client signer).imp ?_
  intro log result hresult err x hx hrejects
  obtain ⟨signed, rfl⟩ := hresult err x hx hrejects
  rw [ErrorKind.isMisread_iff, ← ErrorKind.ofMessage_eq_alreadyKnown_iff]
  change (_ ↔ err.kind = .alreadyKnown) ∧ _ ∧ (_ ↔ ¬(err.kind = .alreadyKnown ∧ _))
  rcases client.submitted_error signed err with ⟨hsubmitted, hknown⟩ | ⟨hsubmitted, hrefused⟩
  · rw [hsubmitted]
    simp [Except.mapError, Except.map, hknown]
  · rw [hsubmitted]
    simp [Except.mapError, Except.map, hrefused]

/-- The rejection of an unknown type of transactions is taken for that of a known transaction. -/
theorem exists_send_of_unknown_type :
    let client : Client := { chainId := 1, config := {}, errors := {} }
    let call := (client.rawCall 0 [] fun _ => .ok []).toWrite
    let signer : Signer := { address := 1, sign := fun _ => .ok ⟨0, []⟩ }
    let chain : SimulatedChain := { rejection := some "unknown transaction type" }
    let sent := (call.send client signer : SendM (Recorded SimulatedChain) _).run.run ⟨chain, []⟩
    ∃ err, (∃ x ∈ sent.2.exchanges, x.Rejects err) ∧ (∃ pending, sent.1 = .ok pending) ∧
      ¬ErrorKind.MentionsAlone Char.isAlpha ErrorKind.knownWordings err.text := by
  intro client call signer chain sent
  refine ⟨.response ⟨-32000, "unknown transaction type", none⟩, ?_, ?_, ?_⟩
  · exact ⟨.sendRaw [] _, List.mem_cons_of_mem _ List.mem_cons_self, rfl⟩
  · exact Except.exists_eq_ok_of_isSome (by decide +kernel)
  · decide +kernel

end WriteCall

end ContractCalls
