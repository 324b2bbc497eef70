import ContractCalls.JsonRpc.Node
import ContractCalls.Simulation.Chain
import Mathlib.Tactic

/-!
# Filling requests

What a node may do to a request that lacks something: it adds chain id, nonce, gas and fees where
they are missing, and leaves alone what is there. Simulated chains and nodes behind JSON-RPC keep to
this.
-/

namespace ContractCalls

namespace CallRequest

/-- One step of filling: a chain id, a nonce or gas is set where there is none. Fees are set only as
a whole, so that fee fields that do not make up fees are replaced. -/
inductive FillStep : CallRequest → CallRequest → Prop where
  | chainId {r : CallRequest} (h : r.chainId = none) (id : Nat) :
      FillStep r { r with chainId := some id }
  | nonce {r : CallRequest} (h : r.nonce = none) (nonce : Nat) :
      FillStep r { r with nonce := some nonce }
  | fees {r : CallRequest} (h : r.fees = none) (fees : Fees) : FillStep r (r.setFees fees)
  | gas {r : CallRequest} (h : r.gas = none) (gas : Nat) : FillStep r { r with gas := some gas }

/-- A request has become another one by steps of filling. -/
abbrev Fills : CallRequest → CallRequest → Prop :=
  Relation.ReflTransGen FillStep

/-- A request has become another one in which nothing is new but what it lacked of a chain id, a
nonce, gas and fees. -/
structure IsFilledTo (r filled : CallRequest) : Prop where
  target_eq : filled.target = r.target
  sender_eq : filled.sender = r.sender
  value_eq : filled.value = r.value
  data_eq : filled.data = r.data
  accessList_eq : filled.accessList = r.accessList
  chainId_eq : ∀ id, r.chainId = some id → filled.chainId = some id
  nonce_eq : ∀ nonce, r.nonce = some nonce → filled.nonce = some nonce
  gas_eq : ∀ gas, r.gas = some gas → filled.gas = some gas
  fees_eq : ∀ fees, r.fees = some fees → filled.fees = some fees

namespace IsFilledTo

lemma refl (r : CallRequest) : r.IsFilledTo r :=
  ⟨rfl, rfl, rfl, rfl, rfl, fun _ h => h, fun _ h => h, fun _ h => h, fun _ h => h⟩

lemma trans {r r' r'' : CallRequest} (h : r.IsFilledTo r') (h' : r'.IsFilledTo r'') :
    r.IsFilledTo r'' where
  target_eq := h'.target_eq.trans h.target_eq
  sender_eq := h'.sender_eq.trans h.sender_eq
  value_eq := h'.value_eq.trans h.value_eq
  data_eq := h'.data_eq.trans h.data_eq
  accessList_eq := h'.accessList_eq.trans h.accessList_eq
  chainId_eq id hid := h'.chainId_eq id (h.chainId_eq id hid)
  nonce_eq nonce hnonce := h'.nonce_eq nonce (h.nonce_eq nonce hnonce)
  gas_eq gas hgas := h'.gas_eq gas (h.gas_eq gas hgas)
  fees_eq fees hfees := h'.fees_eq fees (h.fees_eq fees hfees)

/-- A step sets what is missing, and so changes nothing that is there. -/
lemma of_fillStep {r r' : CallRequest} (h : FillStep r r') : r.IsFilledTo r' := by
  cases h with
  | chainId h id => exact { refl r with chainId_eq := fun id' hid => by rw [h] at hid; cases hid }
  | nonce h nonce =>
    exact { refl r with nonce_eq := fun nonce' hnonce => by rw [h] at hnonce; cases hnonce }
  | fees h fees =>
    exact { refl r with fees_eq := fun fees' hfees => by rw [h] at hfees; cases hfees }
  | gas h gas => exact { refl r with gas_eq := fun gas' hgas => by rw [h] at hgas; cases hgas }

lemma of_fills {r r' : CallRequest} (h : Fills r r') : r.IsFilledTo r' := by
  induction h with
  | refl => exact refl r
  | tail _ hstep ih => exact ih.trans (of_fillStep hstep)

/-- A request that lacks nothing says what its transaction says. -/
lemma unsigned {r : CallRequest} {tx : UnsignedTransaction} (h : r.unsigned = some tx) :
    r.IsFilledTo tx.request := by
  obtain ⟨gas, hgas, h⟩ := Option.bind_eq_some_iff.mp h
  obtain ⟨nonce, hnonce, h⟩ := Option.bind_eq_some_iff.mp h
  obtain ⟨fees, hfees, h⟩ := Option.bind_eq_some_iff.mp h
  obtain rfl := Option.some.inj h
  exact
    { refl r with
      nonce_eq := fun _ h => hnonce.symm.trans h
      gas_eq := fun _ h => hgas.symm.trans h
      fees_eq := fun _ h => (FeeFields.fees_fields fees).trans (hfees.symm.trans h) }

end IsFilledTo

end CallRequest

/-- A node that fills requests without changing what they say. -/
class LawfulNode (σ : Type) [Node σ] : Prop where
  isFilledTo : ∀ (r filled : CallRequest) (s : σ),
    ((Node.fill r : Query σ CallRequest).run.run s).1 = .ok filled → r.IsFilledTo filled

/-! ### Simulated chains -/

namespace CallRequest

variable (r : CallRequest)

lemma fills_chainId_getD (id : Nat) : r.Fills { r with chainId := some (r.chainId.getD id) } := by
  cases h : r.chainId with
  | none => exact .single (.chainId h id)
  | some given =>
    rw [Option.getD_some, ← h]

lemma fills_nonce_getD (nonce : Nat) : r.Fills { r with nonce := some (r.nonce.getD nonce) } := by
  cases h : r.nonce with
  | none => exact .single (.nonce h nonce)
  | some given =>
    rw [Option.getD_some, ← h]

lemma fills_gas_getD (gas : Nat) : r.Fills { r with gas := some (r.gas.getD gas) } := by
  cases h : r.gas with
  | none => exact .single (.gas h gas)
  | some given =>
    rw [Option.getD_some, ← h]

end CallRequest

lemma SimulatedChain.fills_filled (r : CallRequest) : r.Fills (SimulatedChain.filled r) := by
  have hgiven := ((r.fills_chainId_getD 1).trans (CallRequest.fills_nonce_getD _ 0)).trans
    (CallRequest.fills_gas_getD _ 100000)
  rw [SimulatedChain.filled]
  split
  · next hfees => exact hgiven.tail (.fees (Option.isNone_iff_eq_none.mp hfees) _)
  · exact hgiven

instance : LawfulNode SimulatedChain where
  isFilledTo r filled s h := by
    obtain rfl := Except.ok.inj h
    exact .of_fills (SimulatedChain.fills_filled r)

/-! ### Nodes behind JSON-RPC -/

/-- Every result of the query satisfies `post`, whatever the node answers. -/
def Ensures {σ α : Type} (query : Query σ α) (post : α → Prop) : Prop :=
  ∀ (s : σ) (a : α), (query.run.run s).1 = .ok a → post a

namespace Ensures

variable {σ α β : Type}

lemma pure {a : α} {post : α → Prop} (h : post a) : Ensures (pure a : Query σ α) post := by
  intro s b heq
  obtain rfl := Except.ok.inj heq
  exact h

lemma bind {query : Query σ α} {f : α → Query σ β} {post : α → Prop} {post' : β → Prop}
    (h : Ensures query post) (hf : ∀ a, post a → Ensures (f a) post') :
    Ensures (query >>= f) post' := by
  intro s b heq
  rw [ExceptT.run_bind, StateT.run_bind] at heq
  cases hresult : query.run.run s with
  | mk result s' =>
    rw [hresult] at heq
    cases result with
    | error e => cases heq
    | ok a => exact hf a (h s a (congrArg Prod.fst hresult)) s' b heq

/-- What is made of a result that may be anything. -/
lemma map {query : Query σ α} {f : α → β} {post : β → Prop} (h : ∀ a, post (f a)) :
    Ensures (query >>= fun a => Pure.pure (f a)) post :=
  bind (fun _ _ _ => trivial : Ensures query fun _ => True) fun a _ => pure (h a)

end Ensures

namespace JsonRpcNode

lemma ite_bind {c : Prop} [Decidable c] {τ α β : Type} (x y : Query τ α) (f : α → Query τ β) :
    (if c then x else y) >>= f = if c then x >>= f else y >>= f :=
  apply_ite (· >>= f) c x y

variable {σ : Type} [JsonRpcServer σ]

def addChainId (r : CallRequest) : Query (JsonRpcNode σ) CallRequest :=
  if r.chainId.isNone then do return { r with chainId := some (← chainIdQuery) } else return r

/-- The nonce is that of the sender, if there is one. -/
def addNonce (r : CallRequest) : Query (JsonRpcNode σ) CallRequest :=
  match r.nonce, r.sender with
  | none, some sender => do return { r with nonce := some (← transactionCount sender) }
  | _, _ => return r

def addFees (r : CallRequest) : Query (JsonRpcNode σ) CallRequest :=
  if r.fees.isNone then do return r.setFees (← estimateFees) else return r

def addGas (r : CallRequest) : Query (JsonRpcNode σ) CallRequest :=
  if r.gas.isNone then do return { r with gas := some (← estimateGas r) } else return r

/-- A request is filled in four steps. -/
lemma fill_eq (r : CallRequest) :
    (fill r : Query (JsonRpcNode σ) CallRequest) =
      addChainId r >>= fun r => addNonce r >>= fun r => addFees r >>= addGas := by
  obtain ⟨target, sender, value, data, gas, feeFields, nonce, accessList, chainId⟩ := r
  cases chainId <;> cases nonce <;> cases sender <;>
    simp only [fill, addChainId, addNonce, addFees, addGas, ite_bind, bind_assoc, pure_bind,
      Option.isNone_none, Option.isNone_some, if_true, Bool.false_eq_true, if_false]

lemma ensures_addChainId (r : CallRequest) :
    Ensures (addChainId r : Query (JsonRpcNode σ) CallRequest) r.Fills := by
  rw [addChainId]
  split
  · next h => exact .map fun id => .single (.chainId (Option.isNone_iff_eq_none.mp h) id)
  · exact .pure .refl

lemma ensures_addNonce (r : CallRequest) :
    Ensures (addNonce r : Query (JsonRpcNode σ) CallRequest) r.Fills := by
  rw [addNonce]
  split
  · next h _ => exact .map fun nonce => .single (.nonce h nonce)
  · exact .pure .refl

lemma ensures_addFees (r : CallRequest) :
    Ensures (addFees r : Query (JsonRpcNode σ) CallRequest) r.Fills := by
  rw [addFees]
  split
  · next h => exact .map fun fees => .single (.fees (Option.isNone_iff_eq_none.mp h) fees)
  · exact .pure .refl

lemma ensures_addGas (r : CallRequest) :
    Ensures (addGas r : Query (JsonRpcNode σ) CallRequest) r.Fills := by
  rw [addGas]
  split
  · next h => exact .map fun gas => .single (.gas (Option.isNone_iff_eq_none.mp h) gas)
  · exact .pure .refl

lemma ensures_fill (r : CallRequest) :
    Ensures (fill r : Query (JsonRpcNode σ) CallRequest) r.Fills := by
  rw [fill_eq]
  refine .bind (ensures_addChainId r) fun r₁ h₁ => ?_
  refine .bind (ensures_addNonce r₁) fun r₂ h₂ => ?_
  refine .bind (ensures_addFees r₂) fun r₃ h₃ => ?_
  intro s filled hfilled
  exact ((h₁.trans h₂).trans h₃).trans (ensures_addGas r₃ s filled hfilled)

instance : LawfulNode (JsonRpcNode σ) where
  isFilledTo r filled s h := .of_fills (ensures_fill r s filled h)

end JsonRpcNode

end ContractCalls
