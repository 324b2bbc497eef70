import ContractCalls.Json.Printer
import ContractCalls.JsonRpc.Block
import ContractCalls.JsonRpc.Receipt

/-!
# Nodes behind JSON-RPC

A node that answers by JSON-RPC. The id of its chain is asked for once. What a transaction lacks is
filled in from the state of the node; fees are estimated from the recent blocks, or from the gas
price where that fails.
-/

namespace ContractCalls

/-- A server with state `σ` that answers a method with parameters, and the reader of its answers. -/
class JsonRpcServer (σ : Type) where
  request : String → Json → Query σ Json
  /-- What the reader says of a result that the method cannot have, and the text of the result. -/
  misfit : σ → String → Json → String × String

/-- A node on a server, with the id of its chain once that is known. -/
structure JsonRpcNode (σ : Type) where
  server : σ
  chainId : Option Nat := none

namespace JsonRpcNode

variable {σ : Type} [JsonRpcServer σ]

/-- Asks the server, and reads the result. -/
def ask {α : Type} (method : String) (params : Json) (read : Json → Option α) :
    Query (JsonRpcNode σ) α := fun node =>
  match JsonRpcServer.request method params node.server with
  | (.error err, server) => (.error err, { node with server })
  | (.ok result, server) =>
    match read result with
    | some x => (.ok x, { node with server })
    | none =>
      let (message, text) := JsonRpcServer.misfit server method result
      (.error (.unreadable message text), { node with server })

def chainIdQuery : Query (JsonRpcNode σ) Nat := do
  match (← get).chainId with
  | some id => return id
  | none =>
    let id ← ask "eth_chainId" .null Wire.uint64?
    modify fun node => { node with chainId := some id }
    return id

def call (r : CallRequest) (block : BlockId) (state : Option StateOverrides)
    (header : Option BlockOverrides) : Query (JsonRpcNode σ) Bytes :=
  ask "eth_call" (Wire.callParameters r block state header) Json.bytes?

def sendRaw (raw : Bytes) : Query (JsonRpcNode σ) Hash :=
  ask "eth_sendRawTransaction" (.array [Wire.bytes raw]) Wire.hash?

def receipt (hash : Hash) : Query (JsonRpcNode σ) (Option Receipt) := do
  let receipt ← ask "eth_getTransactionReceipt" (.array [Wire.bitVec hash])
    (Wire.optional? Wire.receipt?)
  return receipt.join

def blockNumber : Query (JsonRpcNode σ) Nat :=
  ask "eth_blockNumber" .null Wire.uint64?

def pending : Json :=
  Wire.block .pending

def transactionCount (account : Address) : Query (JsonRpcNode σ) Nat :=
  ask "eth_getTransactionCount" (.array [Wire.bitVec account, pending]) Wire.uint64?

def gasPrice : Query (JsonRpcNode σ) Nat :=
  ask "eth_gasPrice" .null Wire.uint128?

def estimateGas (r : CallRequest) : Query (JsonRpcNode σ) Nat :=
  ask "eth_estimateGas" (.array [Wire.transaction r.transaction, pending]) Wire.uint64?

/-! ### Fees -/

/-- The sum of two fees. Fees have 128 bits, and a larger sum loses the bits above them. -/
def feeSum (a b : Nat) : Nat :=
  (a + b) % (UInt64.size * UInt64.size)

/-- The middle one of sorted fees, or the mean of the middle two. -/
def median (sorted : List Nat) : Nat :=
  let n := sorted.length
  if n % 2 = 0 then feeSum (sorted.getD (n / 2 - 1) 0) (sorted.getD (n / 2) 0) / 2
  else sorted.getD (n / 2) 0

/-- The median of the first rewards of the blocks that paid any, and at least one. -/
def priorityFee (rewards : List (List Nat)) : Nat :=
  let paid := (rewards.filterMap List.head?).filter (0 < ·)
  if paid.isEmpty then 1 else max (median paid.mergeSort) 1

def feeHistory : Query (JsonRpcNode σ) Wire.FeeHistory :=
  ask "eth_feeHistory" (.array [Wire.quantity 10, Wire.block .latest, .array [.integer 20]])
    Wire.feeHistory?

/-- The base fee of the latest block, asked for by itself. -/
def latestBaseFee : Query (JsonRpcNode σ) Nat := do
  match ← ask "eth_getBlockByNumber" (.array [Wire.block .latest, .bool false])
    (Wire.optional? Wire.baseFee?) with
  | none => throw .nullResponse
  | some none => throw (.unsupported "eip1559")
  | some (some fee) => return fee

/-- Fees with a priority fee, and a maximum that leaves room for the base fee to double. The history
ends with the next block, before which stands the latest one. -/
def estimateDynamicFees : Query (JsonRpcNode σ) Fees := do
  let history ← feeHistory
  let known := (history.baseFees.reverse[1]?).getD 0
  let base ← if known = 0 then latestBaseFee else pure known
  let priority := priorityFee history.rewards
  return .dynamic (feeSum (2 * base) priority) priority

/-- Dynamic fees, or the gas price if they cannot be estimated. -/
def estimateFees : Query (JsonRpcNode σ) Fees :=
  tryCatch estimateDynamicFees fun _ => return .legacy (← gasPrice)

/-! ### Filling -/

/-- Adds the chain id, then the nonce of the sender, the fees and the gas. -/
def fill (r : CallRequest) : Query (JsonRpcNode σ) CallRequest := do
  let r ← if r.chainId.isNone then do pure { r with chainId := some (← chainIdQuery) } else pure r
  let r ←
    match r.nonce, r.sender with
    | none, some sender => do pure { r with nonce := some (← transactionCount sender) }
    | _, _ => pure r
  let r ← if r.fees.isNone then do pure (r.setFees (← estimateFees)) else pure r
  if r.gas.isNone then return { r with gas := some (← estimateGas r) } else return r

instance : Node (JsonRpcNode σ) where
  chainId := chainIdQuery
  call := call
  sendRaw := sendRaw
  receipt := receipt
  blockNumber := blockNumber
  fill := fill

end JsonRpcNode

/-- A server that takes its answers to each method from a list, and records the requests. -/
structure AnswerSheet where
  answers : List (String × Except RpcError Json)
  /-- What is said of the result of a method that cannot be read. -/
  complaint : String → Json → String
  requests : List (String × Json) := []

instance : JsonRpcServer AnswerSheet where
  request method params := fun sheet =>
    let requests := sheet.requests ++ [(method, params)]
    match sheet.answers.span (·.1 != method) with
    | (before, (_, answer) :: after) =>
      (answer, { sheet with answers := before ++ after, requests })
    | (_, []) => (.error (.custom s!"no response for {method}"), { sheet with requests })
  misfit sheet method result := (sheet.complaint method result, result.render)

end ContractCalls
