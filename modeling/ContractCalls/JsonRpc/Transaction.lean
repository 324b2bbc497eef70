import ContractCalls.JsonRpc.Wire

/-!
# Transactions on the wire

Blocks and receipts tell the types of transactions, and a block may hold its transactions in full.
Nothing is made of these, but each has to have the members that its type asks for.
-/

namespace ContractCalls.Wire

/-- The type of a transaction, given by its number or by its text with one or two digits. -/
def transactionType? : Json → Option Nat
  | .integer n => if 0 ≤ n ∧ n < 5 then some n.toNat else none
  | .string text =>
    (["0x0", "0x1", "0x2", "0x3", "0x4"].idxOf? text).or
      (["0x00", "0x01", "0x02", "0x03", "0x04"].idxOf? text)
  | _ => none

/-- A number that tells the parity of a signature: the parity itself, or the parity with 27 added,
or with 35 and twice the chain id. -/
def isRecovery (j : Json) : Bool :=
  (uint128? j).any fun n => n = 0 || n = 1 || n = 27 || n = 28 || 35 ≤ n

/-- A transaction tells the parity of its signature by itself or by the number that stands for
it. -/
def tellsParity (j : Json) : Bool :=
  match j.get "yParity" with
  | .null => isRecovery (j.get "v")
  | parity => (uint64? parity).any (· ≤ 1)

def accessRules : List (String × MemberRule) :=
  [("address", needed (reads (laterWord? 160))),
    ("storageKeys", needed (listOf (reads (laterWord? 256))))]

def authorizationRules : List (String × MemberRule) :=
  [("chainId", needed (reads (quantity? 256))), ("address", needed (reads (laterWord? 160))),
    ("nonce", needed (reads uint64?)), ("yParity", needed (reads (quantity? 8))),
    ("r", needed (reads (quantity? 256))), ("s", needed (reads (quantity? 256)))]

/-- An authorization, whose parity may have a shorter name. -/
def isAuthorization (j : Json) : Bool :=
  (underMainNames? [("v", "yParity")] j).any (keepsTo authorizationRules)

/-- A gas price fills a word at most. It may be more than a fee that is paid can be. -/
def isGasPrice (j : Json) : Bool :=
  reads (quantity? 256) j

/-- The rules for the members that transactions of all types have. -/
def commonRules : List (String × MemberRule) :=
  [("hash", needed (reads (laterWord? 256))), ("from", needed (reads (laterWord? 160))),
    ("blockHash", nullable (laterWord? 256)), ("blockNumber", nullable uint64?),
    ("transactionIndex", nullable uint64?), ("gasPrice", ifGiven (orNull isGasPrice)),
    ("nonce", needed (reads uint64?)), ("gas", needed (reads uint64?)),
    ("value", needed (reads (quantity? 256))), ("input", needed (reads Json.bytes?)),
    ("r", needed (reads (quantity? 256))), ("s", needed (reads (quantity? 256)))]

/-- The rules for what a transaction of a type may spend. -/
def feeRules (type : Nat) : List (String × MemberRule) :=
  if type ≤ 1 then [("gasPrice", needed isGasPrice)]
  else
    [("maxFeePerGas", needed (reads uint128?)), ("maxPriorityFeePerGas", needed (reads uint128?))]

/-- The rules for what transactions have from the first type with a number on. -/
def typedRules (type : Nat) : List (String × MemberRule) :=
  [("chainId", needed (reads uint64?)),
    ("accessList",
      needed (orNull (listOf fun j => keepsTo accessRules (named (accessRules.map (·.1)) j)))),
    ("to", if type ≤ 2 then nullable (laterWord? 160) else needed (reads (laterWord? 160)))]

/-- The rules for what only the later types have. -/
def laterRules (type : Nat) : List (String × MemberRule) :=
  if type = 3 then
    [("maxFeePerBlobGas", needed (reads uint128?)),
      ("blobVersionedHashes", needed (listOf (reads (laterWord? 256))))]
  else if type = 4 then [("authorizationList", needed (listOf isAuthorization))]
  else []

/-- A signature of the oldest type names the chain in its parity or no chain at all. The chain is
not another one than the transaction names. -/
def agreesOnChain (j : Json) : Bool :=
  match uint64? (j.get "chainId"), uint128? (j.get "v") with
  | some chain, some v => v < 35 || (v - 35) / 2 = chain
  | _, _ => true

/-- A transaction in full. One that tells no type is of the oldest. -/
def isTransaction (j : Json) : Bool :=
  match underMainNames? [("gasLimit", "gas")] j with
  | none => false
  | some j =>
    let fits (type : Nat) : Bool := keepsTo (commonRules ++ feeRules type) j
    match if (j.get "type").isNull then some 0 else transactionType? (j.get "type") with
    | none => false
    | some 0 =>
      fits 0 && agreesOnChain j &&
        keepsTo [("v", needed isRecovery), ("chainId", nullable uint64?),
          ("to", nullable (laterWord? 160))] j
    | some type =>
      fits type && keepsTo (typedRules type ++ laterRules type) j && tellsParity j

end ContractCalls.Wire
