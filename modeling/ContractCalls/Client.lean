import ContractCalls.Config
import ContractCalls.Deployment
import ContractCalls.Node
import ContractCalls.Revert.Registry

/-!
# Clients

A client knows the id of its chain, its configuration and the custom errors of contracts. It turns
the errors of a node into contract errors.
-/

namespace ContractCalls

structure Client where
  chainId : Nat
  config : ClientConfig
  errors : ErrorRegistry

/-- An action on a node that may fail with a contract error. -/
abbrev ContractM (σ α : Type) := ExceptT ContractError (StateM σ) α

namespace Client

variable {σ : Type} [Node σ]

/-- The client of the chain that a node belongs to. -/
def connect (config : ClientConfig) (errors : ErrorRegistry) : Query σ Client := do
  return { chainId := ← Node.chainId, config, errors }

/-- The configured multicall contract, or that of the chain. -/
def deployment (client : Client) : Deployment :=
  match client.config.multicall with
  | some address => { address }
  | none => .forChain client.chainId

/-- A request on the chain of the client. -/
def newRequest (client : Client) (target : Address) (data : Bytes) : CallRequest :=
  { target, data, chainId := some client.chainId }

/-- The result of a query, its errors translated. -/
def translating {α : Type} (client : Client) (query : Query σ α) : ContractM σ α :=
  query.adapt client.errors.translate

/-- The data that a simulated call returns. -/
def simulate (client : Client) (request : CallRequest) (options : CallOptions) :
    ContractM σ Bytes :=
  client.translating <|
    Node.call request (options.block.getD client.config.defaultBlock) options.stateOverrides
      options.blockOverrides

def fill (client : Client) (request : CallRequest) : ContractM σ CallRequest :=
  client.translating (Node.fill request)

/-- Submits a transaction. A node that knows it already has accepted it before. -/
def submit (client : Client) (signed : SignedTransaction) : ContractM σ Hash := fun state =>
  match Node.sendRaw signed.raw state with
  | (.ok hash, state) => (.ok hash, state)
  | (.error err, state) =>
    if err.kind = .alreadyKnown then (.ok signed.hash, state)
    else (.error (client.errors.translate err), state)

def describe (client : Client) : String :=
  Text.record "ContractClient"
    [("chain_id", toString client.chainId), ("config", client.config.describe),
      ("custom_errors", toString client.errors.size)]

end Client

end ContractCalls
