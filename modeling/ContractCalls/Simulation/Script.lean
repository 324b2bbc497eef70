import ContractCalls.Simulation.Chain

/-!
# Scripted chains

A simulated chain behind a script: prepared answers come first, and where there is none the chain
answers. Calls and requests to fill are recorded. Polls for the head are limited in number, so that
no wait goes on for ever.
-/

namespace ContractCalls

/-- The fields of a request that a fill may leave as they were. -/
inductive FillField where
  | nonce
  | gas
  | fees
  deriving DecidableEq, Repr, Inhabited

/-- Prepared answers; `none` in a queue lets the chain answer. -/
structure Script where
  chainError : Option RpcError := none
  calls : List (Option RpcError) := []
  sends : List (Option RpcError) := []
  receipts : List (Option (Except RpcError (Hash → Option Receipt))) := []
  blocks : List (Option (Except RpcError Nat)) := []
  fillError : Option RpcError := none
  fillFees : Option Fees := none
  fillSkip : List FillField := []

structure RecordedCall where
  request : CallRequest
  block : BlockId
  stateOverrides : Option StateOverrides
  blockOverrides : Option BlockOverrides

structure ScriptedChain where
  chainId : Nat
  chain : SimulatedChain := {}
  script : Script := {}
  calls : List RecordedCall := []
  filled : List CallRequest := []
  blockPolls : Nat := 0

namespace ScriptedChain

/-- Adds prepared answers at the end of the queues, and replaces the rest of the script. -/
def extend (c : ScriptedChain) (s : Script) : ScriptedChain :=
  { c with script := { s with
      calls := c.script.calls ++ s.calls
      sends := c.script.sends ++ s.sends
      receipts := c.script.receipts ++ s.receipts
      blocks := c.script.blocks ++ s.blocks } }

/-- Lets the chain behind the script answer. -/
def ask {α : Type} (query : Query SimulatedChain α) : Query ScriptedChain α := fun c =>
  let (answer, chain) := query c.chain
  (answer, { c with chain })

def call (request : CallRequest) (block : BlockId) (stateOverrides : Option StateOverrides)
    (blockOverrides : Option BlockOverrides) : Query ScriptedChain Bytes := fun c =>
  let c : ScriptedChain :=
    { c with calls := c.calls ++ [⟨request, block, stateOverrides, blockOverrides⟩] }
  let rest : ScriptedChain := { c with script.calls := c.script.calls.tail }
  match c.script.calls.head?.join with
  | some err => (.error err, rest)
  | none => ask (Node.call request block stateOverrides blockOverrides) rest

def sendRaw (raw : Bytes) : Query ScriptedChain Hash := fun c =>
  let rest : ScriptedChain := { c with script.sends := c.script.sends.tail }
  match c.script.sends.head?.join with
  | some err => (.error err, rest)
  | none => ask (Node.sendRaw raw) rest

def receipt (hash : Hash) : Query ScriptedChain (Option Receipt) := fun c =>
  let rest : ScriptedChain := { c with script.receipts := c.script.receipts.tail }
  match c.script.receipts.head?.join with
  | some answer => (answer.map (· hash), rest)
  | none => ask (Node.receipt hash) rest

/-- The most polls for the head that are answered. -/
def maxBlockPolls : Nat := 50

def blockNumber : Query ScriptedChain Nat := fun c =>
  let c : ScriptedChain := { c with blockPolls := c.blockPolls + 1 }
  if c.blockPolls > maxBlockPolls then (.error (.custom "too many block polls"), c)
  else
    let rest : ScriptedChain := { c with script.blocks := c.script.blocks.tail }
    match c.script.blocks.head?.join with
    | some answer => (answer, rest)
    | none => ask Node.blockNumber rest

/-- Puts a field back as it was. -/
def restore (before : CallRequest) (after : CallRequest) : FillField → CallRequest
  | .nonce => { after with nonce := before.nonce }
  | .gas => { after with gas := before.gas }
  | .fees => { after with feeFields := before.feeFields }

def fill (request : CallRequest) : Query ScriptedChain CallRequest := fun c =>
  let c : ScriptedChain := { c with filled := c.filled ++ [request] }
  match c.script.fillError with
  | some err => (.error err, c)
  | none =>
    let adjust (after : CallRequest) : CallRequest :=
      c.script.fillSkip.foldl (restore request) (c.script.fillFees.elim after after.setFees)
    (adjust <$> ask (Node.fill request)) c

instance : Node ScriptedChain where
  chainId := fun c => (c.script.chainError.elim (.ok c.chainId) .error, c)
  call := call
  sendRaw := sendRaw
  receipt := receipt
  blockNumber := blockNumber
  fill := fill

end ScriptedChain

end ContractCalls
