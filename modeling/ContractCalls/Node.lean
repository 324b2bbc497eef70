import ContractCalls.CallOptions
import ContractCalls.Request
import ContractCalls.Rpc.Error

/-!
# Nodes

What a client asks of a node of the chain. A node is a state that each request may change, also one
that fails.
-/

namespace ContractCalls

/-- The inclusion of a transaction in a block. -/
structure Receipt where
  hash : Hash
  block : Nat
  /-- The transaction did not revert. -/
  status : Bool
  gasUsed : Nat
  deriving DecidableEq, Repr, Inhabited

/-- A request to a node with state `σ`. -/
abbrev Query (σ α : Type) := ExceptT RpcError (StateM σ) α

class Node (σ : Type) where
  chainId : Query σ Nat
  /-- Simulates a call on a block with overrides. -/
  call : CallRequest → BlockId → Option StateOverrides → Option BlockOverrides → Query σ Bytes
  /-- Submits a signed transaction. -/
  sendRaw : Bytes → Query σ Hash
  /-- The receipt of a transaction, if it is in a block. -/
  receipt : Hash → Query σ (Option Receipt)
  blockNumber : Query σ Nat
  /-- Adds what a transaction still lacks. -/
  fill : CallRequest → Query σ CallRequest

end ContractCalls
