import ContractCalls.Multicall.Dispatch

/-!
# Sessions

Work with one client and one node in which calls, aggregates, handles and pending transactions go by
name. Reading calls, writing calls and aggregates have separate names. An action that uses something
up takes its name away, also if the action goes wrong afterwards.
-/

namespace ContractCalls

/-- Things by name, one for each name. -/
abbrev Named (α : Type) := List (String × α)

namespace Named

variable {α : Type}

def erase (things : Named α) (name : String) : Named α :=
  things.filter (·.1 != name)

def put (things : Named α) (name : String) (thing : α) : Named α :=
  (name, thing) :: things.erase name

end Named

/-- What is shown of a receipt: all of it, or the block alone. -/
inductive ReceiptView where
  | full (receipt : Receipt)
  | minedIn (block : Nat)
  deriving DecidableEq, Repr, Inhabited

/-- A pending transaction; of one that shows the full receipt others can be made for the same
hash. -/
structure NamedPending where
  pending : PendingInclusion ReceiptView
  ofHash : Bool

/-- A session on a node with state `σ`. -/
structure Session (σ : Type) where
  client : Client
  node : σ
  reads : Named ReadCall := []
  writes : Named (WriteCall ReceiptView) := []
  aggregates : Named Aggregate := []
  handleNames : Named Nat := []
  pendings : Named NamedPending := []
  handles : Handles := []

/-- An action in a session, which fails on an unknown name. What it did before it failed stays
done. -/
abbrev SessionM (σ α : Type) := OptionT (StateM (Session σ)) α

namespace Session

variable {σ : Type}

/-- Runs an action on the node. -/
def onNode {α : Type} (action : StateM σ α) : SessionM σ α := do
  let s ← get
  let (result, node) := action s.node
  set { s with node }
  return result

def found {α : Type} (thing : Option α) : SessionM σ α :=
  OptionT.mk (pure thing)

/-! ### Calls -/

def putRead (name : String) (call : ReadCall) : SessionM σ Unit :=
  modify fun s => { s with reads := s.reads.put name call }

def putWrite (name : String) (call : WriteCall ReceiptView) : SessionM σ Unit :=
  modify fun s => { s with writes := s.writes.put name call }

def getRead (name : String) : SessionM σ ReadCall := do
  found ((← get).reads.lookup name)

def getWrite (name : String) : SessionM σ (WriteCall ReceiptView) := do
  found ((← get).writes.lookup name)

def takeWrite (name : String) : SessionM σ (WriteCall ReceiptView) := do
  let call ← getWrite name
  modify fun s => { s with writes := s.writes.erase name }
  return call

/-- The call that a name stands for, reading calls first. -/
def getCall (name : String) : SessionM σ ReadCall :=
  getRead name <|> (do return (← getWrite name).call)

/-- Changes a call, reading calls first. -/
def modifyCall (name : String) (f : ReadCall → ReadCall) : SessionM σ Unit :=
  (do putRead name (f (← getRead name))) <|>
    (do let call ← getWrite name; putWrite name { call with call := f call.call })

def addWrite (name : String) (call : ReadCall) : SessionM σ Unit :=
  putWrite name (call.toWrite.mapReceipt .full)

def clone (name copy : String) : SessionM σ Unit := do
  putRead copy (← getRead name)

/-- Turns a reading call into a writing one with another name. -/
def intoWrite (name newName : String) : SessionM σ Unit := do
  let call ← getRead name
  modify fun s => { s with reads := s.reads.erase name }
  addWrite newName call

/-- Lets waiting for a writing call show the block alone. -/
def showBlock (name : String) : SessionM σ Unit := do
  putWrite name ((← getWrite name).mapReceipt fun receipt => .minedIn receipt.block)

def describeCall (name : String) : SessionM σ String :=
  (do return (← getRead name).describe) <|> (do return (← getWrite name).describe)

/-! ### Aggregates -/

/-- Closes the handles of an aggregate that nobody can dispatch any more. -/
def discard (a : Aggregate) : SessionM σ Unit :=
  modify fun s => { s with handles := s.handles.closeAll a.handles }

def takeAggregate (name : String) : SessionM σ Aggregate := do
  let a ← found ((← get).aggregates.lookup name)
  modify fun s => { s with aggregates := s.aggregates.erase name }
  return a

def dropAggregate (name : String) : SessionM σ Unit := do
  discard (← takeAggregate name)

/-- Names an aggregate; one that had the name is gone. -/
def putAggregate (name : String) (a : Aggregate) : SessionM σ Unit := do
  dropAggregate name <|> pure ()
  modify fun s => { s with aggregates := s.aggregates.put name a }

def getAggregate (name : String) : SessionM σ Aggregate := do
  found ((← get).aggregates.lookup name)

/-- Replaces an aggregate by one with the same handles. -/
def updateAggregate (name : String) (a : Aggregate) : SessionM σ Unit :=
  modify fun s => { s with aggregates := s.aggregates.put name a }

/-- Changes the custom errors that the client knows, which it shares with the aggregates made of
it. -/
def setErrors (errors : ErrorRegistry) : SessionM σ Unit :=
  modify fun s => { s with
    client.errors := errors
    aggregates := s.aggregates.map fun (name, a) => (name, a.knowing errors) }

/-- What is to be added under a name: an aggregate, else a copy of a reading call, else a writing
call. An aggregate is used up even if there is none to add it to. -/
def takeQueued (aggregate name : String) : SessionM σ (QueuedCall × Aggregate) := do
  match (← get).aggregates.lookup name with
  | some nested =>
    modify fun s => { s with aggregates := s.aggregates.erase name }
    match (← get).aggregates.lookup aggregate with
    | some a => return (.nested nested, a)
    | none =>
      discard nested
      failure
  | none =>
    let a ← getAggregate aggregate
    let call ← getRead name <|> (do return (← takeWrite name).call)
    return (.single call, a)

/-- Adds a call to an aggregate and names its handle. -/
def add (aggregate name : String) (allowFailure : Bool) (handleName : String) :
    SessionM σ Aggregate := do
  let (call, a) ← takeQueued aggregate name
  let (handles, handle) := (← get).handles.add
  let a := a.add call allowFailure handle
  modify fun s => { s with handles, handleNames := s.handleNames.put handleName handle }
  updateAggregate aggregate a
  return a

/-- The encoding of an aggregate, which the aggregate keeps. -/
def encodeAggregate (name : String) : SessionM σ (Except AbiError EncodedBatch) := do
  match (← getAggregate name).encode with
  | .error err => return .error err
  | .ok (encoded, a) =>
    updateAggregate name a
    return .ok encoded

/-- Dispatches an aggregate and settles its handles; those left over are closed. -/
def dispatch {α : Type} (name : String) (run : Aggregate → StateM σ (Dispatched α)) :
    SessionM σ (Except AggregateError α) := do
  let a ← takeAggregate name
  let dispatched ← onNode (run a)
  modify fun s => { s with handles := s.handles.settleAll dispatched.settlements }
  discard a
  return dispatched.result

/-! ### Handles -/

/-- Takes the outcome of a handle, if it is settled. -/
def tryTake (name : String) : SessionM σ (Option (Except ContractError Outcome)) := do
  let handle ← found ((← get).handleNames.lookup name)
  let (handles, outcome) := (← get).handles.tryTake handle
  modify fun s => { s with handles }
  return outcome

/-- Takes the outcome of a handle and gives the handle up. -/
def awaitHandle (name : String) : SessionM σ (Option (Except ContractError Outcome)) := do
  let outcome ← tryTake name
  modify fun s => { s with handleNames := s.handleNames.erase name }
  return outcome

/-! ### Changing requests and options -/

/-- Changes the request and the options of a reading call, a writing call or an aggregate. -/
def configureCall (name : String) (request : CallRequest → CallRequest)
    (options : CallOptions → CallOptions) : SessionM σ Unit :=
  modifyCall name
    (fun c => { c with request := request c.request, options := options c.options }) <|>
    (do
      let a ← getAggregate name
      updateAggregate name { a with request := request a.request, options := options a.options })

variable [Node σ]

/-! ### Simulating and sending -/

/-- Simulates a call, with its own options unless others are given. -/
def simulate (name : String) (options : Option CallOptions) :
    SessionM σ (Except ContractError (List AbiValue)) := do
  let call ← getCall name
  onNode (call.callWith (← get).client (options.getD call.options)).run

def sign (name : String) (signer : Signer) :
    SessionM σ (Except SendError (Option SignedTransaction)) := do
  return (← getWrite name).sign signer

def putPending (name : String) (pending : PendingInclusion ReceiptView) (ofHash : Bool) :
    SessionM σ Unit :=
  modify fun s => { s with pendings := s.pendings.put name ⟨pending, ofHash⟩ }

/-- Sends a writing call. -/
def send (name : String) (signer : Signer) (pendingName : String) :
    SessionM σ (Except SendError Hash) := do
  let call ← takeWrite name
  match ← onNode (call.send (← get).client signer).run with
  | .error err => return .error err
  | .ok pending =>
    putPending pendingName pending false
    return .ok pending.hash

/-- A pending transaction with the full receipt, under the configuration of the client. -/
def pendingOf (hash : Hash) : SessionM σ (PendingInclusion ReceiptView) := do
  return { hash, config := (← get).client.config.inclusion, view := .full }

def callAggregate (name : String) : SessionM σ (Except AggregateError AggregateOutput) :=
  dispatch name AggregateOf.call

def sendAggregate (name : String) (signer : Signer) (pendingName : String) :
    SessionM σ (Except AggregateError Hash) := do
  match ← dispatch name (AggregateOf.send · signer) with
  | .error err => return .error err
  | .ok pending =>
    putPending pendingName { pending with view := .full } true
    return .ok pending.hash

/-! ### Waiting -/

def addPending (name : String) (hash : Hash) : SessionM σ Unit := do
  putPending name (← pendingOf hash) true

def getPending (name : String) : SessionM σ NamedPending := do
  found ((← get).pendings.lookup name)

/-- Changes how a pending transaction is waited for. -/
def configurePending (name : String) (f : InclusionConfig → InclusionConfig) :
    SessionM σ (PendingInclusion ReceiptView) := do
  let named ← getPending name
  let pending := { named.pending with config := f named.pending.config }
  putPending name pending named.ofHash
  return pending

/-- The time in milliseconds that a wait slept, with its result. -/
structure Wait where
  result : Except InclusionError ReceiptView
  elapsed : Nat

/-- Waits for a pending transaction with at most `polls` polls for the head. -/
def waitFor (pending : PendingInclusion ReceiptView) (polls : Nat) : SessionM σ Wait := do
  let waited ← found (← onNode (pending.wait polls))
  return ⟨waited.result, waited.elapsed pending.config⟩

def wait (name : String) (polls : Nat) : SessionM σ Wait := do
  waitFor (← getPending name).pending polls

/-- Waits for a copy of a pending transaction, under the configuration of the client if the copy can
be made from the hash. -/
def waitApart (name : String) (polls : Nat) : SessionM σ Wait := do
  let named ← getPending name
  waitFor (← if named.ofHash then pendingOf named.pending.hash else pure named.pending) polls

end Session

end ContractCalls
