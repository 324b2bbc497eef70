import ContractCalls.Proofs.Call
import ContractCalls.Proofs.Multicall.Dispatch
import ContractCalls.Simulation.Signer

/-!
# Sending aggregates

An aggregate is sent as a whole or not at all. If it is sent, it was simulated before, the node has
taken one transaction with the request that was simulated, and the handles have the outcomes of the
simulation. If it is not, the node has taken nothing, and all handles have errors.
-/

namespace ContractCalls.AggregateOf

/-- The simulation of a request before it is sent. -/
def simulation (a : Aggregate) (signer : Signer) (request : CallRequest)
    (answer : Except RpcError Bytes) : Exchange :=
  .call (request.withDefaultSender signer.address) (a.options.block.getD .pending)
    a.options.stateOverrides a.options.blockOverrides answer

/-- How an aggregate is sent: its request is prepared, simulated and sent. The handles are settled
with the error at which this ends, and else from the answer to the simulation. -/
inductive Sending (a : Aggregate) (signer : Signer) :
    List Exchange → Dispatched (PendingInclusion Receipt) → Prop where
  | unprepared {err : AggregateError} (hprepare : a.prepare = .error err) :
      a.Sending signer [] ⟨.error err, []⟩
  | refused {request : CallRequest} (hprepare : a.prepare = .ok request) (err : RpcError) :
      a.Sending signer [a.simulation signer request (.error err)]
        ⟨.error (.contract (a.client.errors.translate err)), a.fail (a.client.errors.translate err)⟩
  | unsent {request : CallRequest} {data : Bytes} {log : List Exchange} {err : SendError}
      (hprepare : a.prepare = .ok request)
      (hsend : (request.withDefaultSender signer.address).Sending a.client signer log
        (.error err)) :
      a.Sending signer (a.simulation signer request (.ok data) :: log)
        ⟨.error (.send err), a.fail (unsentError err)⟩
  | sent {request : CallRequest} {data : Bytes} {log : List Exchange}
      {pending : PendingInclusion Receipt} (hprepare : a.prepare = .ok request)
      (hsend : (request.withDefaultSender signer.address).Sending a.client signer log
        (.ok pending.hash)) :
      a.Sending signer (a.simulation signer request (.ok data) :: log)
        ⟨.ok pending, (a.distribute data).2⟩

variable {a : Aggregate} {signer : Signer} {log : List Exchange}

/-- If an aggregate is not sent, nothing is accepted, and at most errors settle its handles. -/
lemma Sending.of_error {err : AggregateError} {settlements : List Settlement}
    (h : a.Sending signer log ⟨.error err, settlements⟩) :
    (∀ x ∈ log, ¬x.Accepts) ∧ (settlements = [] ∨ ∃ err, settlements = a.fail err) := by
  cases h with
  | unprepared hprepare => exact ⟨by simp, .inl rfl⟩
  | refused hprepare err => exact ⟨by simp [simulation, Exchange.Accepts], .inr ⟨_, rfl⟩⟩
  | unsent hprepare hsend =>
    refine ⟨List.forall_mem_cons.mpr ⟨?_, hsend.not_accepts⟩, .inr ⟨_, rfl⟩⟩
    exact not_false

/-- If it is sent, its request was simulated and then sent, and the simulation settles its
handles. -/
lemma Sending.of_ok {pending : PendingInclusion Receipt} {settlements : List Settlement}
    (h : a.Sending signer log ⟨.ok pending, settlements⟩) :
    ∃ request data log', a.prepare = .ok request ∧
      log = a.simulation signer request (.ok data) :: log' ∧
      (request.withDefaultSender signer.address).Sending a.client signer log' (.ok pending.hash) ∧
      settlements = (a.settled (.ok data)).settlements := by
  cases h with
  | sent hprepare hsend => exact ⟨_, _, _, hprepare, rfl, hsend, rfl⟩

/-! ### Handles of an aggregate that is gone -/

/-- After settlements for all its handles, an aggregate may go: the handles have their outcomes. -/
lemma tryTake_settleAll {hs : Handles} (hawait : hs.Await [a]) {settlements : List Settlement}
    (hhandles : settlements.map (·.handle) = a.handles) {t : Settlement} (ht : t ∈ settlements) :
    (((hs.settleAll settlements).closeAll a.handles).tryTake t.handle).2 = some t.outcome :=
  Handles.tryTake_closeAll_of_settled a.handles (hawait.state_settleAll hhandles ht)

/-- With errors or without settlements, all handles have errors. -/
lemma exists_tryTake_eq_error {hs : Handles} (hawait : hs.Await [a]) {settlements : List Settlement}
    (hfail : settlements = [] ∨ ∃ err, settlements = a.fail err) {h : Nat} (hh : h ∈ a.handles) :
    ∃ err, (((hs.settleAll settlements).closeAll a.handles).tryTake h).2 = some (.error err) := by
  rcases hfail with rfl | ⟨err, rfl⟩
  · exact ⟨_, Handles.tryTake_closeAll_of_waiting hh (hawait.waiting_handles h hh)⟩
  · refine ⟨err, tryTake_settleAll hawait ?_ (t := ⟨h, .error err⟩) ?_⟩
    · rw [fail_eq, List.map_map]
      exact List.map_id _
    · rw [fail_eq]
      exact List.mem_map_of_mem hh

variable {σ : Type} [Node σ] [LawfulNode σ]

lemma records_send (a : Aggregate) (signer : Signer) :
    Records (a.send signer : StateM (Recorded σ) (Dispatched (PendingInclusion Receipt)))
      (a.send signer : StateM σ (Dispatched (PendingInclusion Receipt)))
      (a.Sending signer) := by
  rw [send, send]
  cases hprepare : a.prepare with
  | error err => exact .pure (.unprepared hprepare)
  | ok request =>
    refine .bind (a.client.records_simulate _ _) ?_
    rintro log result ⟨answer, rfl, rfl⟩
    cases answer with
    | error err => exact .pure (.refused hprepare err)
    | ok data =>
      refine .bind (WriteCall.records_send _ a.client signer) ?_
      rintro log result ⟨result', hsend, rfl⟩
      cases result' with
      | error err =>
        refine .pure ?_
        rw [List.append_nil]
        exact .unsent hprepare hsend
      | ok hash =>
        refine .pure ?_
        rw [List.append_nil]
        exact .sent hprepare hsend

/-- Sending an aggregate is all or nothing. If it fails, where the request, the simulation, the
filling, the signer or the submission does, no transaction has been accepted, and no handle of the
tree has an outcome: all have errors. If it succeeds, the simulation came first and had an answer.
Then a transaction with what was simulated, to which the node has added at most chain id, nonce, gas
and fees, was submitted once and accepted, now or before, and each handle has what the call of the
aggregate gives it on that answer. -/
theorem send_all_or_nothing (signer : Signer) {a : Aggregate} {hs : Handles}
    (hawait : hs.Await [a]) (s : σ) :
    let sent := (a.send signer : StateM (Recorded σ) _).run ⟨s, []⟩
    let settlements := sent.1.settlements
    let after := (hs.settleAll settlements).closeAll a.handles
    (a.send signer).run s = (sent.1, sent.2.node) ∧
      a.Sending signer sent.2.exchanges sent.1 ∧
      match sent.1.result with
      | .error _ =>
        (∀ x ∈ sent.2.exchanges, ¬x.Accepts) ∧
          ∀ h ∈ a.handles, ∃ err, (after.tryTake h).2 = some (.error err)
      | .ok pending =>
        ∃ request data fills tx signed answer, a.prepare = .ok request ∧
          let simulated := request.withDefaultSender signer.address
          sent.2.exchanges =
            .call simulated (a.options.block.getD .pending) a.options.stateOverrides
              a.options.blockOverrides (.ok data) :: fills ++ [.sendRaw signed.raw answer] ∧
          (fills = [] ∨ ∃ filled, fills = [.fill simulated (.ok filled)]) ∧
          simulated.IsFilledTo tx.request ∧ signer.sign tx = .ok signed ∧
          (answer = .ok pending.hash ∨
            ∃ err, answer = .error err ∧ err.kind = .alreadyKnown ∧ pending.hash = signed.hash) ∧
          (∀ (τ : Type) [Node τ] (t : τ), ((a.ask request).run.run t).1 = .ok data →
            (a.call.run t).1.settlements = settlements) ∧
          settlements.map (·.handle) = a.handles ∧
          ∀ t ∈ settlements, (after.tryTake t.handle).2 = some t.outcome := by
  obtain ⟨log, hrun, hsend⟩ := records_send a signer (⟨s, []⟩ : Recorded σ)
  rw [hrun]
  rcases hplain : (a.send signer).run s with ⟨⟨result, settlements⟩, node⟩
  simp only [hplain, List.nil_append] at hsend ⊢
  refine ⟨trivial, hsend, ?_⟩
  cases result with
  | error err =>
    obtain ⟨haccepts, hfail⟩ := hsend.of_error
    exact ⟨haccepts, fun h hh => exists_tryTake_eq_error hawait hfail hh⟩
  | ok pending =>
    obtain ⟨request, data, log', hprepare, rfl, hrequest, rfl⟩ := hsend.of_ok
    obtain ⟨fills, tx, signed, answer, rfl, hfills, hfilled, hsigned, hanswer⟩ := hrequest.of_ok
    have hhandles := handles_settled a (.ok data)
    refine ⟨request, data, fills, tx, signed, answer, hprepare, rfl, hfills, hfilled, hsigned,
      hanswer, ?_, hhandles, fun t ht => tryTake_settleAll hawait hhandles ht⟩
    intro τ _ t hask
    rw [call_eq a hprepare t, hask]

/-- One answer to the simulation, and two signers. The one that refuses everything leaves errors,
and the one that signs leaves what the answer says, which does not decode for the aggregate
within. -/
theorem send_all_or_nothing_nested :
    let client : Client := { chainId := 1, config := {}, errors := {} }
    let single := QueuedCall.single (client.rawCall 7 [] fun _ => .ok [])
    let within := (empty client { address := canonicalMulticall }).add single false 0
    let a := ((empty client { address := canonicalMulticall }).add single true 1).add
      (.nested within) true 2
    let hs : Handles := [.waiting, .waiting, .waiting]
    let results := [(true, []), (true, [0xff])]
    let chain : SimulatedChain := { contracts := [(canonicalMulticall, .returningResults results)] }
    let unread := ContractError.ofAbi [0xff] (.bufferOverrun 0 32 1)
    let unsent :=
      (a.send (.refusing 1 "no key") : StateM (Recorded SimulatedChain) _).run ⟨chain, []⟩
    let sent := (a.send (.transcribing 1) : StateM (Recorded SimulatedChain) _).run ⟨chain, []⟩
    let after := (hs.settleAll sent.1.settlements).closeAll a.handles
    hs.Await [a] ∧
      (∀ x ∈ unsent.2.exchanges, ¬x.Accepts) ∧
      (∀ h ∈ [1, 0, 2], ∃ err,
        (((hs.settleAll unsent.1.settlements).closeAll a.handles).tryTake h).2 =
          some (.error err)) ∧
      (∃ pending simulation fill raw, sent.1.result = .ok pending ∧
        sent.2.exchanges = [simulation, fill, .sendRaw raw (.ok pending.hash)]) ∧
      (after.tryTake 0).2 = some (.error unread) ∧
      (after.tryTake 1).2 = some (.ok (.values [])) ∧
      (after.tryTake 2).2 = some (.error unread) := by
  intro client single within a hs results chain unread unsent sent after
  have hhandles : a.handles = [1, 0, 2] := by
    simp [a, within, single, handles_add, QueuedCall.handlesWithin, handles_empty]
  have hawait : hs.Await [a] := by
    constructor
    · simp [hhandles]
    · simp [hhandles, hs, Handles.state]
  have hwithin : within.IsBuilt := .addCall (.empty _ _) _ _ _
  have hbuilt : a.IsBuilt := .addAggregate (.addCall (.empty _ _) _ _ _) hwithin _ _
  let request : CallRequest :=
    { a.request with target := canonicalMulticall, value := a.totalValue, data := a.data }
  have hprepare : a.prepare = .ok request := prepare_eq hbuilt.isSound (by simp [a, add]) rfl
  have hanswer : ((a.ask request).run.run chain).1 = .ok (encodeResults results) := rfl
  have hgarbled : decodeResults [0xff] = .error (.bufferOverrun 0 32 1) := by decide +kernel
  have hresults : decodeResults (encodeResults results) = .ok results :=
    decodeResults_encodeResults (by decide +kernel)
  have hdistribute : (a.distribute (encodeResults results)).2 =
      [⟨1, .ok (.values [])⟩, ⟨0, .error unread⟩, ⟨2, .error unread⟩] := by
    simp [a, within, single, results, add, empty, distribute, resultsFor, hresults,
      Entry.distribute, QueuedCall.complete, hgarbled, Entry.failAll, Except.map, Client.rawCall,
      unread]
  obtain ⟨pending, fill, simulated, raw, hpending, hexchanges⟩ : ∃ pending fill simulated raw,
      sent.1.result = .ok pending ∧ sent.2.exchanges =
        [.call simulated .pending none none (.ok (encodeResults results)), fill,
          .sendRaw raw (.ok pending.hash)] := by
    simp only [sent, send, hprepare]
    exact ⟨_, _, _, _, rfl, rfl⟩
  obtain ⟨-, -, hunsent⟩ := send_all_or_nothing (.refusing 1 "no key") hawait chain
  obtain ⟨-, -, hsent⟩ := send_all_or_nothing (.transcribing 1) hawait chain
  -- no transaction is signed by the signer that refuses
  have hfailed : ∃ err, unsent.1.result = .error err := by
    cases hresult : unsent.1.result with
    | error err => exact ⟨err, rfl⟩
    | ok pending =>
      rw [hresult] at hunsent
      obtain ⟨_, _, _, _, _, _, -, -, -, -, hsigned, -⟩ := hunsent
      cases hsigned
  obtain ⟨err, hfailed⟩ := hfailed
  rw [hfailed] at hunsent
  rw [hpending] at hsent
  obtain ⟨request', data, _, _, _, _, hrequest, hlog, -, -, -, -, hcalled, -, htaken⟩ := hsent
  obtain rfl := Except.ok.inj (hprepare.symm.trans hrequest)
  have hfirst := (List.cons.inj (hexchanges.symm.trans hlog)).1
  obtain rfl := Except.ok.inj (Exchange.call.inj hfirst).2.2.2.2
  have hsettlements : sent.1.settlements = (a.distribute (encodeResults results)).2 := by
    rw [← hcalled SimulatedChain chain hanswer,
      call_of_returningResults hbuilt.isSound (by simp [a, add]) rfl rfl, settled]
  have htaken : ∀ t ∈ sent.1.settlements, (after.tryTake t.handle).2 = some t.outcome := htaken
  rw [hsettlements, hdistribute] at htaken
  simp only [List.forall_mem_cons] at htaken
  obtain ⟨htaken1, htaken0, htaken2, -⟩ := htaken
  exact ⟨hawait, hunsent.1, hhandles ▸ hunsent.2, ⟨pending, _, fill, raw, hpending, hexchanges⟩,
    htaken0, htaken1, htaken2⟩

end ContractCalls.AggregateOf
