import ContractCalls.Setting
import Mathlib.Tactic

/-!
# Simulated and signed requests

A request is simulated with all fields that are set, and signed with the fees that it has. Both
transactions are the same as long as no fees of the other kind were set. Which kinds are set can be
read off the settings: every fee field adds its kind, and fees as a whole leave their own kind
alone.
-/

namespace ContractCalls

/-- The two kinds of fees. -/
inductive FeeKind where
  | dynamic
  | legacy
  deriving DecidableEq, Repr

def Fees.kind : Fees → FeeKind
  | dynamic _ _ => .dynamic
  | legacy _ => .legacy

/-- Some field of a kind of fees is set. -/
def FeeFields.Names (fields : FeeFields) : FeeKind → Prop
  | .dynamic => fields.maxFee.isSome ∨ fields.maxPriorityFee.isSome
  | .legacy => fields.gasPrice.isSome

namespace FeeFields

lemma names_fields_iff {fees : Fees} {kind : FeeKind} :
    fees.fields.Names kind ↔ kind = fees.kind := by
  cases fees <;> cases kind <;> simp [Fees.fields, Names, Fees.kind]

lemma fees_eq_dynamic_iff {fields : FeeFields} {max priority : Nat} :
    fields.fees = some (.dynamic max priority) ↔
      fields.maxFee = some max ∧ fields.maxPriorityFee = some priority := by
  obtain ⟨_ | _, _ | _, _ | _⟩ := fields <;> simp [fees]

/-- A gas price counts if there are no dynamic fees. -/
lemma gasPrice_of_fees_eq_legacy {fields : FeeFields} {price : Nat}
    (h : fields.fees = some (.legacy price)) : fields.gasPrice = some price := by
  obtain ⟨_ | _, _ | _, _ | _⟩ := fields <;> simp_all [fees]

/-- Fields that make up fees are those of the fees if they name no other kind. -/
lemma eq_fields_iff {fields : FeeFields} {fees : Fees} (h : fields.fees = some fees) :
    fields = fees.fields ↔ ∀ kind, fields.Names kind → kind = fees.kind := by
  constructor
  · rintro rfl kind
    exact names_fields_iff.mp
  · obtain ⟨gasPrice, maxFee, maxPriorityFee⟩ := fields
    intro hnames
    cases fees with
    | dynamic max priority =>
      obtain ⟨hmax, hpriority⟩ := fees_eq_dynamic_iff.mp h
      have hlegacy : gasPrice = none := by simpa [Names, Fees.kind] using hnames .legacy
      simp only at hmax hpriority
      rw [hlegacy, hmax, hpriority, Fees.fields]
    | legacy price =>
      have hprice := gasPrice_of_fees_eq_legacy h
      have hdynamic : maxFee = none ∧ maxPriorityFee = none := by
        simpa [Names, Fees.kind] using hnames .dynamic
      simp only at hprice
      rw [hprice, hdynamic.1, hdynamic.2, Fees.fields]

end FeeFields

/-! ### The kinds of fees that are set -/

/-- The kinds of fees of which a field is set, after one more setting. -/
def Setting.feeKinds (kinds : List FeeKind) : Setting → List FeeKind
  | .gasPrice _ => .legacy :: kinds
  | .maxFee _ | .maxPriorityFee _ => .dynamic :: kinds
  | .fees f => [f.kind]
  | _ => kinds

/-- The kinds of fees of which settings leave a field set. -/
def Setting.allFeeKinds (settings : List Setting) : List FeeKind :=
  settings.foldl Setting.feeKinds []

namespace CallRequest

lemma names_set {r : CallRequest} {kinds : List FeeKind}
    (h : ∀ kind, r.feeFields.Names kind ↔ kind ∈ kinds) (setting : Setting) (kind : FeeKind) :
    (r.set setting).feeFields.Names kind ↔ kind ∈ setting.feeKinds kinds := by
  cases setting with
  | sender | value | gas | nonce | accessList | chainId => exact h kind
  | fees f =>
    rw [set, setFees, FeeFields.names_fields_iff, Setting.feeKinds, List.mem_singleton]
  | gasPrice price =>
    rw [Setting.feeKinds, List.mem_cons, ← h]
    cases kind <;> simp [set, FeeFields.Names]
  | maxFee max | maxPriorityFee priority =>
    rw [Setting.feeKinds, List.mem_cons, ← h]
    cases kind <;> simp [set, FeeFields.Names]

/-- Settings leave the kinds of fees set that are told by them, if there were none before. -/
lemma names_setAll {r : CallRequest} (h : r.feeFields = {}) (settings : List Setting)
    (kind : FeeKind) :
    (r.setAll settings).feeFields.Names kind ↔ kind ∈ Setting.allFeeKinds settings := by
  -- the settings follow any request whose kinds are known
  have hrun : ∀ (settings : List Setting) (r : CallRequest) (kinds : List FeeKind),
      (∀ kind, r.feeFields.Names kind ↔ kind ∈ kinds) →
        ((settings.foldl set r).feeFields.Names kind ↔
          kind ∈ settings.foldl Setting.feeKinds kinds) := by
    intro settings
    induction settings with
    | nil => exact fun r kinds h => h kind
    | cons setting settings ih => exact fun r kinds h => ih _ _ (names_set h setting)
  refine hrun settings r [] fun kind => ?_
  cases kind <;> simp [h, FeeFields.Names]

/-! ### What is signed -/

lemma transaction_eq_setFees {r : CallRequest} {tx : UnsignedTransaction}
    (h : r.unsigned = some tx) :
    r.fees = some tx.fees ∧ tx.transaction = (r.setFees tx.fees).transaction := by
  obtain ⟨gas, hgas, nonce, hnonce, fees, hfees, rfl⟩ : ∃ gas, r.gas = some gas ∧ ∃ nonce,
      r.nonce = some nonce ∧ ∃ fees, r.fees = some fees ∧
        UnsignedTransaction.mk r.sender r.target r.value r.data gas nonce fees r.accessList
          r.chainId = tx := by
    simpa [unsigned, Option.bind_eq_some_iff] using h
  simp [hfees, UnsignedTransaction.transaction, transaction, setFees, hgas, hnonce]

lemma transaction_eq_setFees_iff {r : CallRequest} {fees : Fees} :
    r.transaction = (r.setFees fees).transaction ↔ r.feeFields = fees.fields := by
  simp [transaction, setFees]

/-- Where settings make a request ready, the transaction that is signed has the fields of the one
that is simulated, except that the fees of the request are the only ones. So they are the same if
and only if the settings leave no field of the other kind of fees. -/
theorem signed_of_setAll {r : CallRequest} (hr : r.feeFields = {}) (settings : List Setting)
    {tx : UnsignedTransaction} (h : (r.setAll settings).unsigned = some tx) :
    (r.setAll settings).fees = some tx.fees ∧
      tx.transaction = ((r.setAll settings).setFees tx.fees).transaction ∧
      (∀ kind, tx.transaction.feeFields.Names kind ↔ kind = tx.fees.kind) ∧
      ((r.setAll settings).transaction = tx.transaction ↔
        ∀ kind ∈ Setting.allFeeKinds settings, kind = tx.fees.kind) := by
  obtain ⟨hfees, htransaction⟩ := transaction_eq_setFees h
  refine ⟨hfees, htransaction, fun kind => FeeFields.names_fields_iff, ?_⟩
  rw [htransaction, transaction_eq_setFees_iff, FeeFields.eq_fields_iff hfees]
  exact forall_congr' fun kind => by rw [names_setAll hr]

/-- Fees as a whole take the place of an earlier gas price, after which a higher maximum changes
nothing about their kind. -/
theorem signed_of_setAll_raised :
    let r : CallRequest := { target := 7, data := [1], chainId := some 1 }
    let settings : List Setting :=
      [.gasPrice 7, .value 3, .fees (.dynamic 20 2), .nonce 0, .gas 21000, .maxFee 30]
    let tx : UnsignedTransaction :=
      { sender := none, target := 7, value := 3, data := [1], gas := 21000, nonce := 0,
        fees := .dynamic 30 2, accessList := none, chainId := some 1 }
    r.feeFields = {} ∧ (r.setAll settings).unsigned = some tx ∧
      (r.setAll settings).transaction = tx.transaction := by
  intro r settings tx
  have hready : (r.setAll settings).unsigned = some tx := by decide
  exact ⟨rfl, hready, (signed_of_setAll rfl settings hready).2.2.2.mpr (by decide)⟩

/-- With a gas price set beside dynamic fees, the transaction that is simulated has both, and the
one that is signed has not. -/
theorem exists_setAll_ne_signed :
    let r : CallRequest := { target := 7, data := [1] }
    let settings : List Setting :=
      [.gas 21000, .nonce 0, .maxFee 10, .maxPriorityFee 1, .gasPrice 7]
    ∃ tx, (r.setAll settings).unsigned = some tx ∧
      (r.setAll settings).transaction.feeFields = ⟨some 7, some 10, some 1⟩ ∧
      tx.transaction.feeFields = ⟨none, some 10, some 1⟩ ∧
      (r.setAll settings).transaction ≠ tx.transaction := by
  refine ⟨_, rfl, ?_⟩
  decide

end CallRequest

end ContractCalls
