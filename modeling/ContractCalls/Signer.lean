import ContractCalls.Request

/-!
# Signers

Who signs transactions, and what goes wrong when a transaction does not become a signed one.
-/

namespace ContractCalls

inductive SignerError where
  /-- The transaction cannot be put together. -/
  | build (message : String)
  deriving DecidableEq, Repr, Inhabited

def SignerError.message : SignerError → String
  | build message => s!"failed to build transaction: {message}"

structure Signer where
  address : Address
  sign : UnsignedTransaction → Except SignerError SignedTransaction

end ContractCalls
