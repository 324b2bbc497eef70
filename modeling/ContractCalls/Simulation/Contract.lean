import ContractCalls.Multicall.Batch
import ContractCalls.Deployment
import ContractCalls.Request
import ContractCalls.Revert.Registry

/-!
# Simulated contracts

Contracts that answer requests by fixed rules, and the multicall contract, which runs the calls of a
batch one after the other. An answer is the returned data or the data of a revert.
-/

namespace ContractCalls

abbrev Answer := Except Bytes Bytes

inductive SimulatedContract where
  /-- Answers each request by itself. -/
  | answering (answer : CallRequest → Answer)
  | multicall
  /-- Passes a request on by its selector. -/
  | select (cases : List (Selector × SimulatedContract)) (otherwise : SimulatedContract)
  deriving Inhabited

/-- The contracts by address. At other addresses there is nothing, which returns no data, except for
the multicall contract at its usual place. -/
abbrev Contracts := List (Address × SimulatedContract)

namespace SimulatedContract

/-! ### Fixed rules -/

def returning (data : Bytes) : SimulatedContract :=
  answering fun _ => .ok data

def reverting (data : Bytes) : SimulatedContract :=
  answering fun _ => .error data

/-- Returns a number. -/
def returningWord (word : Word) : SimulatedContract :=
  returning (Bytes.ofBitVec word)

/-- Reverts with a reason. -/
def revertingWith (reason : String) : SimulatedContract :=
  reverting (errorString reason)

/-- Returns the results of a batch. -/
def returningResults (results : List (Bool × Bytes)) : SimulatedContract :=
  returning (encodeResults results)

def echoingData : SimulatedContract :=
  answering fun r => .ok r.data

def echoingValue : SimulatedContract :=
  answering fun r => .ok (Bytes.ofBitVec r.value)

/-- Returns the sender, zero if there is none. -/
def echoingSender : SimulatedContract :=
  answering fun r => .ok (Bytes.padLeft 32 (Bytes.ofBitVec (r.sender.getD 0)))

/-! ### Running -/

/-- The selector of calldata that have one. -/
def selectorOf? (data : Bytes) : Option Selector :=
  if data.length < 4 then none else some (Bytes.toBitVec 32 (data.take 4))

mutual

/-- The answer to a request; the multicall contract answers by `batch`. -/
def run (batch : CallRequest → Answer) (request : CallRequest) : SimulatedContract → Answer
  | answering answer => answer request
  | multicall => batch request
  | select cases otherwise =>
    match runCase batch request cases with
    | some answer => answer
    | none => otherwise.run batch request

/-- The answer of the first contract for the selector of a request. -/
def runCase (batch : CallRequest → Answer) (request : CallRequest) :
    List (Selector × SimulatedContract) → Option Answer
  | [] => none
  | (selector, contract) :: cases =>
    if selectorOf? request.data = some selector then some (contract.run batch request)
    else runCase batch request cases

end

/-- Runs calls in order for the multicall contract at an address, up to one that fails and must
not. -/
def runBatchCalls (run : CallRequest → Answer) (sender : Address) :
    List BatchCall → Except Bytes (List (Bool × Bytes))
  | [] => .ok []
  | call :: calls =>
    match run
      { target := call.target, sender := some sender, value := call.value, data := call.data } with
    | .ok data => do return (true, data) :: (← runBatchCalls run sender calls)
    | .error data =>
      if call.allowFailure then do return (false, data) :: (← runBatchCalls run sender calls)
      else .error (errorString "Multicall3: call failed")

/-- The answer of the multicall contract. In the layout with values they have to add up to the value
that comes with the request. -/
def runBatch (run : CallRequest → Answer) (request : CallRequest) : Answer :=
  match Batch.decode? request.data with
  | none => .error []
  | some batch =>
    if batch.strategy = .aggregate3Value ∧
        batch.calls.foldl (fun sum call => sum + call.value) 0 ≠ request.value then
      .error (errorString "Multicall3: value mismatch")
    else (runBatchCalls run request.target batch.calls).map encodeResults

end SimulatedContract

namespace Contracts

/-- The answer to a request through at most `depth` nested batches. -/
def runWithin (contracts : Contracts) : (depth : Nat) → CallRequest → Answer
  | 0, _ => .error []
  | depth + 1, request =>
    let batch := SimulatedContract.runBatch (contracts.runWithin depth)
    match contracts.lookup request.target with
    | some contract => contract.run batch request
    | none => if request.target = canonicalMulticall then batch request else .ok []

/-- The answer to a request. A call in a batch has less calldata than the batch, so that the length
of the calldata bounds how deep batches nest. -/
def run (contracts : Contracts) (request : CallRequest) : Answer :=
  contracts.runWithin (request.data.length + 1) request

end Contracts

end ContractCalls
