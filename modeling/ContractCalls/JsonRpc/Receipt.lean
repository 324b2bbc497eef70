import ContractCalls.JsonRpc.Transaction

/-!
# Receipts on the wire

A receipt is read only if all its members are as they should be, those included that nothing is made
of. It counts from the moment that its transaction is in a block.
-/

namespace ContractCalls.Wire

/-- The rules for an event in a receipt. Its places in the chain have to be given, if only as
`null`. -/
def logRules : List (String × MemberRule) :=
  [("address", needed (reads (laterWord? 160))),
    ("topics", needed (listOf (reads (laterWord? 256)))),
    ("data", needed (reads Json.bytes?)), ("blockHash", nullable (laterWord? 256)),
    ("blockNumber", needed (orNull (reads uint64?))), ("blockTimestamp", nullable uint64?),
    ("transactionHash", nullable (laterWord? 256)),
    ("transactionIndex", needed (orNull (reads uint64?))),
    ("logIndex", needed (orNull (reads uint64?))), ("removed", ifGiven (reads Json.bool?))]

/-- The rules for the members of a receipt that are not read. -/
def receiptRules : List (String × MemberRule) :=
  [("transactionIndex", nullable uint64?), ("blockHash", nullable hash?),
    ("effectiveGasPrice", nullable uint128?), ("blobGasUsed", nullable uint64?),
    ("blobGasPrice", nullable uint128?), ("from", needed (reads (word? 160))),
    ("to", nullable (word? 160)), ("contractAddress", nullable (word? 160)),
    ("type", needed (reads transactionType?)), ("cumulativeGasUsed", needed (reads uint64?)),
    ("logs", needed (listOf (keepsTo logRules))), ("logsBloom", needed (reads (laterWord? 2048)))]

/-- Whether the transaction succeeded. A receipt with the root of the state instead does not tell,
and stands for success. -/
def status? (j : Json) : Option Bool :=
  match quantity? 1 (j.get "status") with
  | some n => some (n == 1)
  | none => (laterWord? 256 (j.get "root")).map fun _ => true

/-- A receipt, with its block if the transaction is in one. Its effective gas price may be called
its gas price. -/
def receipt? (j : Json) : Option (Option Receipt) := do
  let j ← underMainNames? [("gasPrice", "effectiveGasPrice")] j
  let hash ← hash? (j.get "transactionHash")
  let block ← optional? uint64? (j.get "blockNumber")
  let gasUsed ← uint64? (j.get "gasUsed")
  let status ← status? j
  if keepsTo receiptRules j then return block.map fun block => { hash, block, status, gasUsed }
  else none

/-- The receipt of a transaction that called a contract, with given quantities. -/
def receiptOf (hash block gasUsed status : Json) : Json :=
  .object
    [("transactionHash", hash), ("transactionIndex", quantity 0), ("blockHash", .null),
      ("blockNumber", block), ("from", bitVec (0 : Address)), ("to", bitVec (0 : Address)),
      ("contractAddress", .null), ("cumulativeGasUsed", quantity 0), ("gasUsed", gasUsed),
      ("effectiveGasPrice", quantity 1), ("logs", .array []), ("logsBloom", bytes (.zeros 256)),
      ("status", status), ("type", quantity 2)]

end ContractCalls.Wire
