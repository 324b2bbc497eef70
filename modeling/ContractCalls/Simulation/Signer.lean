import ContractCalls.Crypto.Keccak
import ContractCalls.Signer

/-!
# Simulated signers

Signers without keys: one whose raw transactions are readable texts, and one that refuses
everything.
-/

namespace ContractCalls

def Fees.transcript : Fees → String
  | .dynamic max priority => s!"1559:{max}:{priority}"
  | .legacy price => s!"legacy:{price}"

/-- All fields of a transaction in a line; `-` stands for a missing one, the access list is given by
its length. -/
def UnsignedTransaction.transcript (tx : UnsignedTransaction) : String :=
  "|".intercalate
    [tx.sender.elim "-" Hex.ofBitVec, Hex.ofBitVec tx.target, toString tx.value.toNat,
      Hex.encode tx.data, toString tx.gas, toString tx.nonce, tx.fees.transcript,
      tx.accessList.elim "-" fun items => toString items.length, tx.chainId.elim "-" toString]

namespace Signer

/-- The signer of an account whose raw transactions are their transcripts. -/
def transcribing (account : Address) : Signer where
  address := account
  sign tx :=
    let raw := Bytes.ofText tx.transcript
    .ok { hash := Keccak.hash raw, raw }

/-- A signer that can put no transaction together. -/
def refusing (account : Address) (message : String) : Signer where
  address := account
  sign _ := .error (.build message)

end Signer

end ContractCalls
