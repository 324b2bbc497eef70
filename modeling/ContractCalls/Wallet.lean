import ContractCalls.Crypto.Checksum
import ContractCalls.Crypto.Secp256k1
import ContractCalls.Rlp
import ContractCalls.Signer

/-!
# Wallets

The signer of a secret key. The fees and the access list decide the form of a transaction: one with
a priority fee has type 2, one with a gas price and an access list type 1, and any other one the
form without a type, whose signature holds the id of the chain.
-/

namespace ContractCalls

namespace UnsignedTransaction

def accessListItem (items : AccessList) : Rlp :=
  .list (items.map fun item =>
    .list [.bytes (Bytes.ofBitVec item.address),
      .list (item.storageKeys.map fun key => .bytes (Bytes.ofBitVec key))])

/-- The fields between the fees and the access list. -/
def callFields (tx : UnsignedTransaction) : List Rlp :=
  [.number tx.gas, .bytes (Bytes.ofBitVec tx.target), .number tx.value.toNat, .bytes tx.data]

/-- The type of a typed transaction with its fields, on the chain 1 if it names none. -/
def typedFields? (tx : UnsignedTransaction) : Option (UInt8 × List Rlp) :=
  let chain := Rlp.number (tx.chainId.getD 1)
  match tx.fees, tx.accessList with
  | .dynamic max priority, items =>
    some (2, [chain, .number tx.nonce, .number priority, .number max] ++ tx.callFields ++
      [accessListItem (items.getD [])])
  | .legacy price, some items =>
    some (1, [chain, .number tx.nonce, .number price] ++ tx.callFields ++ [accessListItem items])
  | .legacy _, none => none

/-- The fields of a transaction without a type. -/
def legacyFields (tx : UnsignedTransaction) (price : Nat) : List Rlp :=
  [.number tx.nonce, .number price] ++ tx.callFields

/-- The signed form of a transaction. -/
def signedWith (tx : UnsignedTransaction) (secret : Nat) : Bytes :=
  let sign (data : Bytes) := Secp256k1.sign secret (Keccak.hash data)
  match tx.typedFields? with
  | some (type, fields) =>
    let signature := sign (type :: (Rlp.list fields).encode)
    type :: (Rlp.list (fields ++
      [.number signature.odd.toNat, .number signature.r, .number signature.s])).encode
  | none =>
    let fields := tx.legacyFields (tx.fees.fields.gasPrice.getD 0)
    let chain := (tx.chainId.map fun id => [.number id, .number 0, .number 0]).getD []
    let signature := sign (Rlp.list (fields ++ chain)).encode
    let v := tx.chainId.elim (27 + signature.odd.toNat) fun id => 35 + 2 * id + signature.odd.toNat
    (Rlp.list (fields ++ [.number v, .number signature.r, .number signature.s])).encode

end UnsignedTransaction

/-- The signer of a secret key, which signs for no other account. -/
def wallet (secret : Nat) : Signer :=
  let account := Secp256k1.address secret
  { address := account
    sign tx :=
      let sender := tx.sender.getD account
      if sender = account then
        let raw := tx.signedWith secret
        .ok { hash := Keccak.hash raw, raw }
      else .error (.build s!"Missing signing credential for {checksummed sender}") }

end ContractCalls
