import ContractCalls.Proofs.Call
import ContractCalls.Proofs.Node.Fees

/-!
# Complete requests

A request with a sender lacks nothing once a node has filled it. It can be signed, and filling it
again leaves it as it is. So a call that is sent is never found incomplete, and the node is asked to
fill its request just if something is missing there.
-/

namespace ContractCalls

namespace CallRequest

/-- The request has all that filling adds. -/
structure IsComplete (r : CallRequest) : Prop where
  chainId : r.chainId.isSome
  nonce : r.nonce.isSome
  fees : r.fees.isSome
  gas : r.gas.isSome

lemma IsComplete.isReady {r : CallRequest} (h : r.IsComplete) : r.isReady = true := by
  obtain ⟨gas, hgas⟩ := Option.isSome_iff_exists.mp h.gas
  obtain ⟨nonce, hnonce⟩ := Option.isSome_iff_exists.mp h.nonce
  obtain ⟨fees, hfees⟩ := Option.isSome_iff_exists.mp h.fees
  simp [CallRequest.isReady, unsigned, hgas, hnonce, hfees]

lemma isReady_withDefaultSender (r : CallRequest) (account : Address) :
    (r.withDefaultSender account).isReady = r.isReady := by
  rw [isReady, isReady, unsigned_withDefaultSender, Option.isSome_map]

lemma isSome_of_keeps {α : Type} {x y : Option α} (h : ∀ a, x = some a → y = some a)
    (hx : x.isSome) : y.isSome := by
  obtain ⟨a, ha⟩ := Option.isSome_iff_exists.mp hx
  rw [h a ha, Option.isSome_some]

/-- What filling has set is not taken away by the steps that follow. -/
lemma isComplete_of_fills {r₁ r₂ r₃ filled : CallRequest} (h₁ : r₁.Fills filled)
    (hchainId : r₁.chainId.isSome) (h₂ : r₂.Fills filled) (hnonce : r₂.nonce.isSome)
    (h₃ : r₃.Fills filled) (hfees : r₃.fees.isSome) (hgas : filled.gas.isSome) :
    filled.IsComplete where
  chainId := isSome_of_keeps (IsFilledTo.of_fills h₁).chainId_eq hchainId
  nonce := isSome_of_keeps (IsFilledTo.of_fills h₂).nonce_eq hnonce
  fees := isSome_of_keeps (IsFilledTo.of_fills h₃).fees_eq hfees
  gas := hgas

end CallRequest

/-! ### Simulated chains -/

namespace SimulatedChain

lemma some_getD_of_isSome {α : Type} {x : Option α} (h : x.isSome) (a : α) :
    some (x.getD a) = x := by
  obtain ⟨b, rfl⟩ := Option.isSome_iff_exists.mp h
  rfl

lemma isComplete_filled (r : CallRequest) : (filled r).IsComplete := by
  have hfees := isSome_fees_filled r
  rw [filled] at hfees ⊢
  split at hfees
  · next h =>
    rw [if_pos h]
    exact ⟨rfl, rfl, hfees, rfl⟩
  · next h =>
    rw [if_neg h]
    exact ⟨rfl, rfl, hfees, rfl⟩

lemma filled_of_isComplete {r : CallRequest} (h : r.IsComplete) : filled r = r := by
  have hfees : ¬r.fees.isNone := by simpa [Option.isSome_iff_ne_none] using h.fees
  rw [filled, some_getD_of_isSome h.chainId, some_getD_of_isSome h.nonce, some_getD_of_isSome h.gas]
  exact if_neg hfees

end SimulatedChain

/-! ### Nodes behind JSON-RPC -/

lemma Ensures.and {σ α : Type} {query : Query σ α} {post post' : α → Prop} (h : Ensures query post)
    (h' : Ensures query post') : Ensures query fun a => post a ∧ post' a :=
  fun s a ha => ⟨h s a ha, h' s a ha⟩

namespace JsonRpcNode

variable {σ : Type} [JsonRpcServer σ] {r : CallRequest}

lemma ensures_isSome_addChainId (r : CallRequest) :
    Ensures (addChainId r : Query (JsonRpcNode σ) CallRequest) (·.chainId.isSome) := by
  rw [addChainId]
  split
  · exact .map fun id => rfl
  · next h => exact .pure (by simpa [Option.isSome_iff_ne_none] using h)

/-- A request needs a sender for a nonce. -/
lemma ensures_isSome_addNonce (hsender : r.sender.isSome) :
    Ensures (addNonce r : Query (JsonRpcNode σ) CallRequest) (·.nonce.isSome) := by
  obtain ⟨sender, hsender⟩ := Option.isSome_iff_exists.mp hsender
  rw [addNonce, hsender]
  cases hnonce : r.nonce with
  | none => exact .map fun nonce => rfl
  | some nonce => exact .pure (by simp [hnonce])

lemma ensures_isSome_addGas (r : CallRequest) :
    Ensures (addGas r : Query (JsonRpcNode σ) CallRequest) (·.gas.isSome) := by
  rw [addGas]
  split
  · exact .map fun gas => rfl
  · next h => exact .pure (by simpa [Option.isSome_iff_ne_none] using h)

lemma ensures_isComplete_fill (hsender : r.sender.isSome) :
    Ensures (fill r : Query (JsonRpcNode σ) CallRequest) (·.IsComplete) := by
  rw [fill_eq]
  refine .bind (.and (ensures_addChainId r) (ensures_isSome_addChainId r)) ?_
  rintro r₁ ⟨h₁, hchainId⟩
  have hsender₁ : r₁.sender.isSome := by
    rw [(CallRequest.IsFilledTo.of_fills h₁).sender_eq]
    exact hsender
  refine .bind (.and (ensures_addNonce r₁) (ensures_isSome_addNonce hsender₁)) ?_
  rintro r₂ ⟨h₂, hnonce⟩
  refine .bind (.and (ensures_addFees r₂) (ensures_isSome_addFees r₂)) ?_
  rintro r₃ ⟨h₃, hfees⟩
  intro s filled hfilled
  have h₄ := ensures_addGas r₃ s filled hfilled
  have hgas := ensures_isSome_addGas r₃ s filled hfilled
  have h₃₄ := h₃.trans h₄
  exact CallRequest.isComplete_of_fills (h₂.trans h₃₄) hchainId h₃₄ hnonce h₄ hfees hgas

/-- Where nothing is missing, nothing is asked of the server. -/
lemma fill_of_isComplete (h : r.IsComplete) :
    (fill r : Query (JsonRpcNode σ) CallRequest) = pure r := by
  obtain ⟨id, hid⟩ := Option.isSome_iff_exists.mp h.chainId
  obtain ⟨nonce, hnonce⟩ := Option.isSome_iff_exists.mp h.nonce
  obtain ⟨fees, hfees⟩ := Option.isSome_iff_exists.mp h.fees
  obtain ⟨gas, hgas⟩ := Option.isSome_iff_exists.mp h.gas
  have hchainId : (addChainId r : Query (JsonRpcNode σ) CallRequest) = pure r := by
    simp [addChainId, hid]
  have hnonce : (addNonce r : Query (JsonRpcNode σ) CallRequest) = pure r := by
    simp [addNonce, hnonce]
  have hfees : (addFees r : Query (JsonRpcNode σ) CallRequest) = pure r := by
    simp [addFees, hfees]
  have hgas : (addGas r : Query (JsonRpcNode σ) CallRequest) = pure r := by
    simp [addGas, hgas]
  rw [fill_eq, hchainId, pure_bind, hnonce, pure_bind, hfees, pure_bind, hgas]

end JsonRpcNode

/-! ### Sending -/

/-- The request that the node is asked to fill. -/
def Exchange.toFill? : Exchange → Option CallRequest
  | .fill request _ => some request
  | _ => none

/-- Every request with a sender that the node fills can be signed. -/
def Completes (σ : Type) [Node σ] : Prop :=
  ∀ r : CallRequest, r.sender.isSome → Ensures (Node.fill r : Query σ CallRequest) (·.isReady)

/-- Nothing is missing in the end, and the node was asked to fill the request of the call once if
that is not ready, and else not at all. -/
structure WriteCall.NeverLacks {ρ α : Type} (call : WriteCall ρ) (signer : Signer)
    (log : List Exchange) (result : Except SendError α) : Prop where
  ne_incomplete : ∀ detail, result ≠ .error (.incomplete detail)
  toFill_eq : log.filterMap Exchange.toFill? =
    if call.call.request.isReady then [] else [call.call.request.withDefaultSender signer.address]

lemma ne_incomplete_of_sign (signer : Signer) (tx : UnsignedTransaction) (detail : String) :
    (signer.sign tx).mapError SendError.signer ≠ .error (.incomplete detail) := by
  cases signer.sign tx <;> simp [Except.mapError]

lemma completes_simulatedChain : Completes SimulatedChain := by
  intro r _ s filled hfilled
  obtain rfl := Except.ok.inj hfilled
  exact (SimulatedChain.isComplete_filled r).isReady

lemma completes_jsonRpcNode (σ : Type) [JsonRpcServer σ] : Completes (JsonRpcNode σ) :=
  fun _ hsender s filled hfilled =>
    (JsonRpcNode.ensures_isComplete_fill hsender s filled hfilled).isReady

namespace WriteCall

variable {σ ρ : Type} [Node σ] (call : WriteCall ρ) (client : Client) (signer : Signer)

lemma neverLacks_obtainSigned (hnode : Completes σ) :
    Records (call.obtainSigned client signer : SendM (Recorded σ) SignedTransaction).run
      (call.obtainSigned client signer : SendM σ SignedTransaction).run
      (call.NeverLacks signer) := by
  cases hunsigned : (call.call.request.withDefaultSender signer.address).unsigned with
  | some tx =>
    rw [call.obtainSigned_of_complete client signer hunsigned,
      call.obtainSigned_of_complete client signer hunsigned]
    refine (Records.ofExcept _).imp ?_
    rintro log result ⟨rfl, rfl⟩
    refine ⟨ne_incomplete_of_sign signer tx, ?_⟩
    rw [← CallRequest.isReady_withDefaultSender _ signer.address, CallRequest.isReady, hunsigned]
    rfl
  | none =>
    rw [call.obtainSigned_of_lacking client signer hunsigned,
      call.obtainSigned_of_lacking client signer hunsigned]
    refine (call.records_fillAndSign client signer).imp ?_
    rintro log result ⟨answer, s, hs, rfl, rfl⟩
    constructor
    · intro detail
      cases answer with
      | error err => simp [Client.signFilled]
      | ok filled =>
        have hready := hnode _ rfl s filled hs.symm
        obtain ⟨tx, htx⟩ := Option.isSome_iff_exists.mp hready
        rw [Client.signFilled, htx]
        exact ne_incomplete_of_sign signer tx detail
    · rw [← CallRequest.isReady_withDefaultSender _ signer.address, CallRequest.isReady, hunsigned]
      rfl

/-- Submitting a transaction asks for nothing to be filled. -/
lemma neverLacks_send (hnode : Completes σ) :
    Records (call.send client signer : SendM (Recorded σ) (PendingInclusion ρ)).run
      (call.send client signer : SendM σ (PendingInclusion ρ)).run
      (call.NeverLacks signer) := by
  rw [send_eq, send_eq]
  refine .bindExcept (call.neverLacks_obtainSigned client signer hnode) ?_ ?_
  · intro log err h
    exact ⟨fun detail herr => h.ne_incomplete detail (congrArg _ (Except.error.inj herr)),
      h.toFill_eq⟩
  · intro log signed h
    refine .bindExcept (.adapt _ (client.records_submitted signed)) ?_ ?_
    · rintro log' err ⟨result, ⟨answer, rfl, -⟩, herr⟩
      constructor
      · rintro detail hdetail
        cases result with
        | ok hash => cases herr
        | error err' =>
          obtain rfl := Except.error.inj herr
          cases hdetail
      · rw [List.filterMap_append, h.toFill_eq]
        exact List.append_nil _
    · rintro log' hash ⟨result, ⟨answer, rfl, -⟩, hok⟩
      refine .pure ⟨by simp, ?_⟩
      rw [List.append_nil, List.filterMap_append, h.toFill_eq]
      exact List.append_nil _

end WriteCall

/-- Calls are sent on the node without ever lacking something. -/
def SendsComplete (σ : Type) [Node σ] : Prop :=
  ∀ (ρ : Type) (call : WriteCall ρ) (client : Client) (signer : Signer),
    Records (call.send client signer : SendM (Recorded σ) (PendingInclusion ρ)).run
      (call.send client signer : SendM σ (PendingInclusion ρ)).run (call.NeverLacks signer)

/-- A request with a sender that has been filled can be signed, and is not changed by filling it
again, which takes no request to the server of a node behind JSON-RPC. So calls are sent on both
kinds of nodes without ever being found incomplete, and their requests are filled just if they are
not ready. -/
theorem fill_completes :
    (∀ r : CallRequest, r.sender.isSome →
      Ensures (Node.fill r : Query SimulatedChain CallRequest) fun filled =>
        filled.unsigned.isSome ∧
          ∀ s, ((Node.fill filled : Query SimulatedChain CallRequest).run.run s).1 = .ok filled) ∧
    (∀ (σ : Type) [JsonRpcServer σ] (r : CallRequest), r.sender.isSome →
      Ensures (Node.fill r : Query (JsonRpcNode σ) CallRequest) fun filled =>
        filled.unsigned.isSome ∧
          (Node.fill filled : Query (JsonRpcNode σ) CallRequest) = pure filled) ∧
    SendsComplete SimulatedChain ∧
      ∀ (σ : Type) [JsonRpcServer σ], SendsComplete (JsonRpcNode σ) := by
  refine ⟨?_, ?_, ?_, ?_⟩
  · intro r _ s filled hfilled
    obtain rfl := Except.ok.inj hfilled
    have hcomplete := SimulatedChain.isComplete_filled r
    exact ⟨hcomplete.isReady,
      fun s => congrArg Except.ok (SimulatedChain.filled_of_isComplete hcomplete)⟩
  · intro σ _ r hsender s filled hfilled
    have hcomplete := JsonRpcNode.ensures_isComplete_fill hsender s filled hfilled
    exact ⟨hcomplete.isReady, JsonRpcNode.fill_of_isComplete hcomplete⟩
  · intro ρ call client signer
    exact call.neverLacks_send client signer completes_simulatedChain
  · intro σ _ ρ call client signer
    exact call.neverLacks_send client signer (completes_jsonRpcNode σ)

/-- A server without a fee history, for which the gas price does. -/
theorem fill_completes_legacy :
    let r : CallRequest := { target := 0, data := [], sender := some 1, gas := some 21000 }
    let node : JsonRpcNode AnswerSheet :=
      { server :=
          { answers := [("eth_chainId", .ok (.string "0x1")),
              ("eth_getTransactionCount", .ok (.string "0x5")),
              ("eth_gasPrice", .ok (.string "0x7"))]
            complaint := fun method _ => method } }
    r.sender.isSome ∧ r.unsigned = none ∧
      ∃ filled,
        ((Node.fill r : Query (JsonRpcNode AnswerSheet) CallRequest).run.run node).1 = .ok filled ∧
        filled.unsigned.isSome ∧
          (Node.fill filled : Query (JsonRpcNode AnswerSheet) CallRequest) = pure filled := by
  intro r node
  obtain ⟨filled, hfilled⟩ : ∃ filled,
      ((Node.fill r : Query (JsonRpcNode AnswerSheet) CallRequest).run.run node).1 = .ok filled :=
    Except.exists_eq_ok_of_isSome (by decide +kernel)
  exact ⟨rfl, rfl, filled, hfilled, fill_completes.2.1 AnswerSheet r rfl node filled hfilled⟩

end ContractCalls
