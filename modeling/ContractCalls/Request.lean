import ContractCalls.Fees
import ContractCalls.Text.Description

/-!
# Requests and transactions

A request to call a contract, of which much may be missing, and the transaction that it becomes once
it is complete.
-/

namespace ContractCalls

/-- An account with the storage slots of it that a transaction announces. -/
structure AccessItem where
  address : Address
  storageKeys : List Word
  deriving DecidableEq, Repr, Inhabited

abbrev AccessList := List AccessItem

structure CallRequest where
  target : Address
  sender : Option Address := none
  value : Word := 0
  data : Bytes
  gas : Option Nat := none
  feeFields : FeeFields := {}
  nonce : Option Nat := none
  accessList : Option AccessList := none
  chainId : Option Nat := none
  deriving DecidableEq, Repr, Inhabited

/-- A transaction that lacks nothing but a signature. -/
structure UnsignedTransaction where
  sender : Option Address
  target : Address
  value : Word
  data : Bytes
  gas : Nat
  nonce : Nat
  fees : Fees
  accessList : Option AccessList
  chainId : Option Nat
  deriving DecidableEq, Repr, Inhabited

/-- A transaction as it is given to a node or a wallet, which may lack each of its fields. -/
structure TransactionRequest where
  sender : Option Address := none
  target : Option Address := none
  value : Option Word := none
  input : Option Bytes := none
  gas : Option Nat := none
  feeFields : FeeFields := {}
  nonce : Option Nat := none
  accessList : Option AccessList := none
  chainId : Option Nat := none
  deriving DecidableEq, Repr, Inhabited

structure SignedTransaction where
  hash : Hash
  raw : Bytes
  deriving DecidableEq, Repr, Inhabited

namespace CallRequest

def fees (r : CallRequest) : Option Fees :=
  r.feeFields.fees

def setFees (r : CallRequest) (fees : Fees) : CallRequest :=
  { r with feeFields := fees.fields }

/-- The transaction that the request is, if gas, nonce and fees are there. -/
def unsigned (r : CallRequest) : Option UnsignedTransaction := do
  return {
    sender := r.sender, target := r.target, value := r.value, data := r.data
    gas := ← r.gas, nonce := ← r.nonce, fees := ← r.fees
    accessList := r.accessList, chainId := r.chainId }

def isReady (r : CallRequest) : Bool :=
  r.unsigned.isSome

/-- The transaction that a node simulates and estimates the gas of. It has all fee fields that are
set, whatever fees they stand for. -/
def transaction (r : CallRequest) : TransactionRequest where
  sender := r.sender
  target := some r.target
  value := some r.value
  input := some r.data
  gas := r.gas
  feeFields := r.feeFields
  nonce := r.nonce
  accessList := r.accessList
  chainId := r.chainId

/-- The request with a sender, unless it has one. -/
def withDefaultSender (r : CallRequest) (account : Address) : CallRequest :=
  { r with sender := r.sender.getD account }

end CallRequest

namespace UnsignedTransaction

/-- The transaction as a request, which has the fields of its kind of fees alone. -/
def request (tx : UnsignedTransaction) : CallRequest where
  target := tx.target
  sender := tx.sender
  value := tx.value
  data := tx.data
  gas := some tx.gas
  feeFields := tx.fees.fields
  nonce := some tx.nonce
  accessList := tx.accessList
  chainId := tx.chainId

/-- The transaction that a wallet signs. -/
def transaction (tx : UnsignedTransaction) : TransactionRequest where
  sender := tx.sender
  target := some tx.target
  value := some tx.value
  input := some tx.data
  gas := some tx.gas
  feeFields := tx.fees.fields
  nonce := some tx.nonce
  accessList := tx.accessList
  chainId := tx.chainId

end UnsignedTransaction

open Text

def AccessItem.describe (item : AccessItem) : String :=
  record "AccessListItem"
    [("address", Hex.ofBitVec item.address),
      ("storage_keys", bracketed (item.storageKeys.map Hex.ofBitVec))]

def CallRequest.describe (r : CallRequest) : String :=
  record "CallRequest"
    [("to", Hex.ofBitVec r.target), ("from", optional Hex.ofBitVec r.sender),
      ("value", toString r.value.toNat), ("data", Hex.encode r.data),
      ("gas", optional toString r.gas), ("gas_price", optional toString r.feeFields.gasPrice),
      ("max_fee_per_gas", optional toString r.feeFields.maxFee),
      ("max_priority_fee_per_gas", optional toString r.feeFields.maxPriorityFee),
      ("nonce", optional toString r.nonce),
      ("access_list", optional
        (fun items => applied "AccessList" [bracketed (items.map AccessItem.describe)])
        r.accessList),
      ("chain_id", optional toString r.chainId)]

/-- What a request has of the things that a transaction cannot lack. -/
def CallRequest.describeGaps (r : CallRequest) : String :=
  s!"nonce={optional toString r.nonce} gas={optional toString r.gas} fees={optional fees r.fees}"
where
  fees : Fees → String
    | .dynamic max priority =>
      record "Eip1559" [("max_fee", toString max), ("max_priority_fee", toString priority)]
    | .legacy price => record "Legacy" [("gas_price", toString price)]

end ContractCalls
