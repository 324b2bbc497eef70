import ContractCalls.JsonRpc.Transaction

/-!
# Blocks and fee histories on the wire

Of a block only its base fee is of use, but all its members have to be as they should be. A fee
history tells the base fees of some blocks and what was paid on top.
-/

namespace ContractCalls.Wire

def withdrawalRules : List (String × MemberRule) :=
  [("index", needed (reads uint64?)), ("validatorIndex", needed (reads uint64?)),
    ("address", needed (reads (word? 160))), ("amount", needed (reads uint64?))]

/-- A withdrawal, whose members may also be listed in their order. -/
def isWithdrawal (j : Json) : Bool :=
  keepsTo withdrawalRules (named (withdrawalRules.map (·.1)) j)

/-- The transactions of a block, all in full or all by their hashes. -/
def areTransactions (j : Json) : Bool :=
  listOf isTransaction j || listOf (reads (laterWord? 256)) j

def blockRules : List (String × MemberRule) :=
  ["hash", "parentHash", "sha3Uncles", "stateRoot", "transactionsRoot", "receiptsRoot",
    "mixHash"].map
      (fun name => (name, needed (reads (laterWord? 256)))) ++
    ["number", "gasLimit", "gasUsed", "timestamp"].map
      (fun name => (name, needed (reads uint64?))) ++
    ["withdrawalsRoot", "parentBeaconBlockRoot", "requestsHash"].map
      (fun name => (name, nullable (laterWord? 256))) ++
    ["blobGasUsed", "excessBlobGas"].map (fun name => (name, nullable uint64?)) ++
    ["totalDifficulty", "size"].map (fun name => (name, nullable (quantity? 256))) ++
    [("miner", needed (reads (laterWord? 160))), ("logsBloom", needed (reads (laterWord? 2048))),
      ("difficulty", needed (reads (quantity? 256))), ("extraData", needed (reads Json.bytes?)),
      ("nonce", needed (reads (laterWord? 64))),
      ("uncles", ifGiven (listOf (reads hash?))),
      ("transactions", ifGiven (orNull areTransactions)),
      ("withdrawals", ifGiven (orNull (listOf isWithdrawal)))]

/-- Members of a block with another name. -/
def blockNames : List (String × String) :=
  [("beneficiary", "miner"), ("ommersHash", "sha3Uncles")]

/-- The base fee of a block, if it has one. -/
def baseFee? (j : Json) : Option (Option Nat) := do
  let j ← underMainNames? blockNames j
  let fee ← optional? uint64? (j.get "baseFeePerGas")
  if keepsTo blockRules j then return fee else none

/-- A block without transactions, with a given base fee. -/
def blockOf (baseFee : Json) : Json :=
  .object <|
    ["hash", "parentHash", "sha3Uncles", "stateRoot", "transactionsRoot", "receiptsRoot",
        "mixHash"].map (fun name => (name, bitVec (0 : Hash))) ++
      ["number", "gasLimit", "gasUsed", "timestamp", "difficulty"].map
        (fun name => (name, quantity 0)) ++
      [("miner", bitVec (0 : Address)), ("logsBloom", bytes (.zeros 256)), ("extraData", bytes []),
        ("nonce", bytes (.zeros 8)), ("uncles", .array []), ("transactions", .array []),
        ("baseFeePerGas", baseFee)]

/-! ### Fee histories -/

/-- The base fees of some blocks and the priority fees paid in them. -/
structure FeeHistory where
  baseFees : List Nat
  rewards : List (List Nat)
  deriving Repr, Inhabited

def isNumber : Json → Bool
  | .integer _ | .decimal _ _ => true
  | _ => false

def feeHistoryNames : List String :=
  ["baseFeePerGas", "gasUsedRatio", "baseFeePerBlobGas", "blobGasUsedRatio", "oldestBlock",
    "reward"]

/-- The rules for the members of a fee history that are not read. -/
def feeHistoryRules : List (String × MemberRule) :=
  [("gasUsedRatio", needed (orNull (listOf isNumber))),
    ("baseFeePerBlobGas", ifGiven (listOf (reads uint128?))),
    ("blobGasUsedRatio", ifGiven (listOf isNumber)), ("oldestBlock", ifGiven (reads uint64?))]

def feeHistory? (j : Json) : Option FeeHistory := do
  let j := named feeHistoryNames j
  let baseFees ← ((j.get? "baseFeePerGas").elim (some []) (list? uint128?))
  let rewards ← optional? (list? (list? uint128?)) (j.get "reward")
  if keepsTo feeHistoryRules j then return { baseFees, rewards := rewards.getD [] } else none

end ContractCalls.Wire
