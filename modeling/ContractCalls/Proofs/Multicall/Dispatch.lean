import ContractCalls.Proofs.Multicall.Building
import ContractCalls.Proofs.Multicall.Settling
import ContractCalls.Proofs.Simulation.Contract
import ContractCalls.Simulation.Chain

/-!
# Dispatching an aggregate

A dispatched aggregate asks the node once. From the answer, whatever it is, each handle of the
aggregate and of those within it is settled once, and the results say the same as the handles.
-/

namespace ContractCalls.AggregateOf

variable {σ : Type} [Node σ]

/-- The question to the node that an aggregate is dispatched with. -/
def ask (a : Aggregate) (request : CallRequest) : Query σ Bytes :=
  Node.call request (a.options.block.getD a.client.config.defaultBlock)
    (a.deployment.mergeOverrides a.options.stateOverrides) a.options.blockOverrides

/-- The dispatch from the answer of the node. -/
def settled (a : Aggregate) : Except RpcError Bytes → Dispatched AggregateOutput
  | .error err =>
    ⟨.error (.contract (a.client.errors.translate err)), a.fail (a.client.errors.translate err)⟩
  | .ok data => ⟨(a.distribute data).1.mapError .contract, (a.distribute data).2⟩

/-- The node is asked once. -/
lemma call_eq (a : Aggregate) {request : CallRequest} (h : a.prepare = .ok request) (s : σ) :
    a.call.run s =
      (a.settled ((a.ask request).run.run s).1, ((a.ask request).run.run s).2) := by
  rw [call, h]
  simp only [StateT.run_bind, Client.simulate, Client.translating, ask, ExceptT.run_adapt,
    StateT.run_map]
  rcases (Node.call request (a.options.block.getD a.client.config.defaultBlock)
    (a.deployment.mergeOverrides a.options.stateOverrides)
    a.options.blockOverrides : Query σ Bytes).run.run s with ⟨answer, s'⟩
  cases answer with
  | error err => rfl
  | ok data => rfl

lemma handles_settled (a : Aggregate) (answer : Except RpcError Bytes) :
    (a.settled answer).settlements.map (·.handle) = a.handles := by
  cases answer with
  | error err =>
    rw [settled, fail_eq, List.map_map]
    exact List.map_id _
  | ok data =>
    rw [settled]
    exact handles_distribute data a

section

variable {a : Aggregate} {chain : SimulatedChain}

/-- A simulated chain answers with what its contracts do, and counts the call. -/
lemma run_ask (request : CallRequest) : (a.ask request).run.run chain =
    ((chain.contracts.run request).mapError revertResponse,
      { chain with executed := chain.executed + 1 }) := by
  have hcall : (a.ask request).run.run chain = SimulatedChain.call request chain := rfl
  rw [hcall, SimulatedChain.call]
  cases chain.contracts.run request with
  | error data => rfl
  | ok data => rfl

/-- Where a contract is simulated that returns results, these settle the handles. -/
lemma call_of_returningResults (ha : a.ForAggregates IsSound) (hentries : a.entries ≠ [])
    (hvalue : a.request.value = 0) {results : List (Bool × Bytes)}
    (hcontract : chain.contracts.lookup a.deployment.address = some (.returningResults results)) :
    (a.call.run chain).1 = a.settled (.ok (encodeResults results)) := by
  rw [call_eq a (prepare_eq ha hentries hvalue), run_ask, Contracts.run_eq, hcontract]
  rfl

end

end ContractCalls.AggregateOf
