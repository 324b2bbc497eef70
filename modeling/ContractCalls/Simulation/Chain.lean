import ContractCalls.Node
import ContractCalls.Simulation.Contract

/-!
# Simulated chains

A chain in memory as a node: contracts answer calls, transactions that are sent are mined in the
next block, and receipts and block numbers move on with the polls for them.
-/

namespace ContractCalls

/-- A receipt that appears after a number of polls for it. -/
structure ScheduledReceipt where
  misses : Nat
  receipt : Receipt
  deriving Repr, Inhabited

structure SimulatedChain where
  contracts : Contracts := []
  /-- The number of calls that were run. -/
  executed : Nat := 0
  sent : List Bytes := []
  /-- The message with which transactions are refused. -/
  rejection : Option String := none
  fills : Nat := 0
  receipts : List (Hash × ScheduledReceipt) := []
  receiptPolls : Nat := 0
  /-- Messages with which the next polls for receipts fail. -/
  receiptFailures : List String := []
  head : Nat := 0
  /-- The blocks by which each poll for the head moves it on. -/
  blocksPerPoll : Nat := 0

/-- The error with which a node reports revert data. -/
def revertResponse (data : Bytes) : RpcError :=
  .response
    { code := 3, message := "execution reverted", data := some ("\"" ++ Hex.encode data ++ "\"") }

namespace SimulatedChain

def replace {κ α : Type} [BEq κ] (entries : List (κ × α)) (key : κ) (value : α) : List (κ × α) :=
  (key, value) :: entries.filter (·.1 != key)

def setContract (c : SimulatedChain) (address : Address) (contract : SimulatedContract) :
    SimulatedChain :=
  { c with contracts := replace c.contracts address contract }

/-- Schedules the receipt of a transaction in a block. -/
def mineAfter (c : SimulatedChain) (hash : Hash) (misses block : Nat) (status : Bool) :
    SimulatedChain :=
  let receipt := { hash, block, status, gasUsed := 21000 }
  { c with receipts := replace c.receipts hash ⟨misses, receipt⟩ }

/-- Lets some polls for receipts fail. -/
def failReceiptPolls (c : SimulatedChain) (count : Nat) (message : String) : SimulatedChain :=
  { c with receiptFailures := c.receiptFailures ++ List.replicate count message }

/-- The number of the block that lies `blocks` after the head. Numbers have 64 bits and go on at
zero. -/
def numberAhead (c : SimulatedChain) (blocks : Nat) : Nat :=
  (c.head + blocks) % UInt64.size

def call (request : CallRequest) : Query SimulatedChain Bytes := fun c =>
  let c := { c with executed := c.executed + 1 }
  match c.contracts.run request with
  | .ok data => (.ok data, c)
  | .error data => (.error (revertResponse data), c)

def sendRaw (raw : Bytes) : Query SimulatedChain Hash := fun c =>
  match c.rejection with
  | some message => (.error (.response { code := -32000, message, data := none }), c)
  | none =>
    let hash := Keccak.hash raw
    (.ok hash, { c with sent := c.sent ++ [raw] }.mineAfter hash 0 (c.numberAhead 1) true)

def receipt (hash : Hash) : Query SimulatedChain (Option Receipt) := fun c =>
  let c := { c with receiptPolls := c.receiptPolls + 1 }
  match c.receiptFailures with
  | message :: rest => (.error (.custom message), { c with receiptFailures := rest })
  | [] =>
    match c.receipts.lookup hash with
    | none => (.ok none, c)
    | some ⟨0, receipt⟩ => (.ok (some receipt), c)
    | some ⟨misses + 1, receipt⟩ =>
      (.ok none, { c with receipts := replace c.receipts hash ⟨misses, receipt⟩ })

def blockNumber : Query SimulatedChain Nat := fun c =>
  let head := c.numberAhead c.blocksPerPoll
  (.ok head, { c with head })

/-- What a request lacks, from fixed values. -/
def filled (request : CallRequest) : CallRequest :=
  let request := { request with
    chainId := some (request.chainId.getD 1)
    nonce := some (request.nonce.getD 0)
    gas := some (request.gas.getD 100000) }
  if request.fees.isNone then request.setFees (.dynamic 2000000000 1000000000) else request

def fill (request : CallRequest) : Query SimulatedChain CallRequest := fun c =>
  (.ok (filled request), { c with fills := c.fills + 1 })

instance : Node SimulatedChain where
  chainId := pure 1
  call request _ _ _ := call request
  sendRaw := sendRaw
  receipt := receipt
  blockNumber := blockNumber
  fill := fill

end SimulatedChain

end ContractCalls
