import ContractCalls.Node
import Mathlib.Tactic

/-!
# Recorded nodes

A node that keeps a record of all requests and their answers, and answers as the node behind it
does. An action that runs on any node runs on a recorded one with the same result, and what it asks
can be read off the record. Actions are taken apart step by step, each with what it adds to the
record.
-/

namespace ContractCalls

/-- A request to a node and its answer. -/
inductive Exchange where
  | chainId (answer : Except RpcError Nat)
  | call (request : CallRequest) (block : BlockId) (state : Option StateOverrides)
      (header : Option BlockOverrides) (answer : Except RpcError Bytes)
  | sendRaw (raw : Bytes) (answer : Except RpcError Hash)
  | receipt (hash : Hash) (answer : Except RpcError (Option Receipt))
  | blockNumber (answer : Except RpcError Nat)
  | fill (request : CallRequest) (answer : Except RpcError CallRequest)

/-- A node with the exchanges that it has had. -/
structure Recorded (σ : Type) where
  node : σ
  exchanges : List Exchange := []

variable {σ α β ε ε' : Type}

/-- Lets the node answer and records the exchange. -/
def Recorded.record (query : Query σ α) (exchange : Except RpcError α → Exchange) :
    Query (Recorded σ) α := fun s =>
  let (answer, node) := query s.node
  (answer, ⟨node, s.exchanges ++ [exchange answer]⟩)

instance [Node σ] : Node (Recorded σ) where
  chainId := Recorded.record Node.chainId .chainId
  call request block state header :=
    Recorded.record (Node.call request block state header) (.call request block state header)
  sendRaw raw := Recorded.record (Node.sendRaw raw) (.sendRaw raw)
  receipt hash := Recorded.record (Node.receipt hash) (.receipt hash)
  blockNumber := Recorded.record Node.blockNumber .blockNumber
  fill request := Recorded.record (Node.fill request) (.fill request)

/-! ### Actions on recorded nodes -/

/-- The action `x` does on a recorded node what `y` does on the node behind it. It adds exchanges to
the record that satisfy `post` together with the result. -/
def Records (x : StateM (Recorded σ) α) (y : StateM σ α) (post : List Exchange → α → Prop) : Prop :=
  ∀ s : Recorded σ, ∃ log, x.run s = ((y.run s.node).1, ⟨(y.run s.node).2, s.exchanges ++ log⟩) ∧
    post log (y.run s.node).1

namespace Records

lemma imp {x : StateM (Recorded σ) α} {y : StateM σ α} {post post' : List Exchange → α → Prop}
    (h : Records x y post) (himp : ∀ log a, post log a → post' log a) : Records x y post' := by
  intro s
  obtain ⟨log, hrun, hpost⟩ := h s
  exact ⟨log, hrun, himp _ _ hpost⟩

lemma pure {a : α} {post : List Exchange → α → Prop} (h : post [] a) :
    Records (pure a : StateM (Recorded σ) α) (pure a) post := by
  intro s
  refine ⟨[], ?_, h⟩
  rw [List.append_nil]
  rfl

/-- Two steps add what the first one adds and then what the second one does. -/
lemma bind {x : StateM (Recorded σ) α} {y : StateM σ α} {f : α → StateM (Recorded σ) β}
    {g : α → StateM σ β} {post : List Exchange → α → Prop} {post' : List Exchange → β → Prop}
    (hx : Records x y post)
    (hf : ∀ log a, post log a → Records (f a) (g a) fun log' b => post' (log ++ log') b) :
    Records (x >>= f) (y >>= g) post' := by
  intro s
  obtain ⟨log, hrun, hpost⟩ := hx s
  obtain ⟨log', hrun', hpost'⟩ := hf log _ hpost ⟨(y.run s.node).2, s.exchanges ++ log⟩
  refine ⟨log ++ log', ?_, hpost'⟩
  rw [StateT.run_bind, hrun, ← List.append_assoc]
  exact hrun'

/-- The same where a step may fail: after an error nothing more is asked. -/
lemma bindExcept {x : ExceptT ε (StateM (Recorded σ)) α} {y : ExceptT ε (StateM σ) α}
    {f : α → ExceptT ε (StateM (Recorded σ)) β} {g : α → ExceptT ε (StateM σ) β}
    {post : List Exchange → Except ε α → Prop} {post' : List Exchange → Except ε β → Prop}
    (hx : Records x.run y.run post) (herror : ∀ log e, post log (.error e) → post' log (.error e))
    (hf : ∀ log a, post log (.ok a) →
      Records (f a).run (g a).run fun log' b => post' (log ++ log') b) :
    Records (x >>= f).run (y >>= g).run post' := by
  rw [ExceptT.run_bind, ExceptT.run_bind]
  refine bind hx ?_
  intro log result hpost
  cases result with
  | error e =>
    refine pure ?_
    rw [List.append_nil]
    exact herror log e hpost
  | ok a => exact hf log a hpost

/-- Changing the error of an action asks for nothing. -/
lemma adapt {x : ExceptT ε (StateM (Recorded σ)) α} {y : ExceptT ε (StateM σ) α} (f : ε → ε')
    {post : List Exchange → Except ε α → Prop} (h : Records x.run y.run post) :
    Records (x.adapt f).run (y.adapt f).run
      fun log result => ∃ result', post log result' ∧ result = result'.mapError f := by
  intro s
  obtain ⟨log, hrun, hpost⟩ := h s
  refine ⟨log, ?_, _, hpost, ?_⟩
  · rw [ExceptT.run_adapt, ExceptT.run_adapt, StateT.run_map, StateT.run_map, hrun]
    rfl
  · rw [ExceptT.run_adapt, StateT.run_map]
    rfl

/-- What is known already takes no request. -/
lemma ofExcept (x : Except ε α) :
    Records (MonadExcept.ofExcept x : ExceptT ε (StateM (Recorded σ)) α).run
      (MonadExcept.ofExcept x : ExceptT ε (StateM σ) α).run fun log result => log = [] ∧
        result = x := by
  cases x with
  | error e => exact pure ⟨rfl, rfl⟩
  | ok a => exact pure ⟨rfl, rfl⟩

/-- A request adds one exchange, with an answer of the node. -/
lemma record (query : Query σ α) (exchange : Except RpcError α → Exchange) :
    Records (Recorded.record query exchange).run query.run fun log answer =>
      log = [exchange answer] ∧ ∃ s, answer = (query.run.run s).1 :=
  fun s => ⟨[exchange (query s.node).1], rfl, rfl, s.node, rfl⟩

end Records

end ContractCalls
