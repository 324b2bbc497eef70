import ContractCalls.Multicall.Aggregate

/-!
# Dispatching aggregates

An aggregate is simulated, or simulated and then sent as a transaction. Either way the settlements
of its handles come with the result; handles that are not settled stay behind without their
aggregate.
-/

namespace ContractCalls

inductive AggregateError where
  | empty
  | encoding (error : AbiError)
  | contract (error : ContractError)
  | send (error : SendError)
  | valueMismatch (requested expected : Word)
  deriving BEq, Repr, Inhabited

def AggregateError.message : AggregateError → String
  | empty => "aggregate call has no sub-calls"
  | encoding error => s!"failed to encode aggregate call: {error.message}"
  | contract error => error.message
  | send error => error.message
  | valueMismatch requested expected =>
    s!"aggregate value {requested.toNat} does not match the sub-call total {expected.toNat}"

/-- The result of a dispatch and what it settled. -/
structure Dispatched (α : Type) where
  result : Except AggregateError α
  settlements : List Settlement

namespace AggregateOf

/-- The request to the multicall contract. A value that was set has to be the total of the calls. -/
def prepare (a : Aggregate) : Except AggregateError CallRequest := do
  if a.entries.isEmpty then throw .empty
  let (encoded, _) ← a.encode.mapError .encoding
  if a.request.value != 0 && a.request.value != encoded.value then
    throw (.valueMismatch a.request.value encoded.value)
  return { a.request with
    target := a.deployment.address, value := encoded.value, data := encoded.calldata }

variable {σ : Type} [Node σ]

/-- Simulates the calls together. -/
def call (a : Aggregate) : StateM σ (Dispatched AggregateOutput) := do
  match a.prepare with
  | .error err => return ⟨.error err, []⟩
  | .ok request =>
    let options := { a.options with
      stateOverrides := a.deployment.mergeOverrides a.options.stateOverrides }
    match ← (a.client.simulate request options).run with
    | .error err => return ⟨.error (.contract err), a.fail err⟩
    | .ok data =>
      let (outcome, settlements) := a.distribute data
      return ⟨outcome.mapError .contract, settlements⟩

/-- What the handles report if the transaction was not submitted. -/
def unsentError : SendError → ContractError
  | .contract err => err
  | .signer _ | .incomplete _ => .notExecuted

/-- Simulates the calls together, on the pending block by default, and sends them if that succeeds.
The handles are settled from the simulation. -/
def send (a : Aggregate) (signer : Signer) :
    StateM σ (Dispatched (PendingInclusion Receipt)) := do
  match a.prepare with
  | .error err => return ⟨.error err, []⟩
  | .ok request =>
    let request := request.withDefaultSender signer.address
    let options := { a.options with block := some (a.options.block.getD .pending) }
    match ← (a.client.simulate request options).run with
    | .error err => return ⟨.error (.contract err), a.fail err⟩
    | .ok data =>
      let call : ReadCall := { request, decoder := fun _ => .ok [] }
      match ← (call.toWrite.send a.client signer).run with
      | .error err => return ⟨.error (.send err), a.fail (unsentError err)⟩
      | .ok pending => return ⟨.ok pending, (a.distribute data).2⟩

end AggregateOf

end ContractCalls
