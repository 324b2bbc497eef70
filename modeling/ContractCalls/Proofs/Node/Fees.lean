import ContractCalls.Proofs.Node.Filling

/-!
# Fee fields of filled requests

A request that is filled keeps what is set in it, with one exception. Fees are set as a whole where
the fee fields do not make up fees, so that a maximum or a priority fee that stands alone gives way
to an estimate.
-/

namespace ContractCalls

namespace FeeFields

/-- What is set in the fields is set to the same in others. -/
structure StaysIn (fields others : FeeFields) : Prop where
  gasPrice_eq : ∀ price, fields.gasPrice = some price → others.gasPrice = some price
  maxFee_eq : ∀ fee, fields.maxFee = some fee → others.maxFee = some fee
  maxPriorityFee_eq : ∀ fee, fields.maxPriorityFee = some fee → others.maxPriorityFee = some fee

lemma StaysIn.refl (fields : FeeFields) : fields.StaysIn fields :=
  ⟨fun _ h => h, fun _ h => h, fun _ h => h⟩

/-- A maximum or a priority fee is set, but not both, and there is no gas price. -/
def IsHalfSet (fields : FeeFields) : Prop :=
  fields.gasPrice = none ∧ fields.maxFee.isSome ≠ fields.maxPriorityFee.isSome

/-- Where there are no fees, nothing is set or one half of the dynamic fees. -/
lemma staysIn_of_fees_eq_none {fields : FeeFields} (hfees : fields.fees = none)
    (hhalf : ¬fields.IsHalfSet) (others : FeeFields) : fields.StaysIn others := by
  obtain ⟨gasPrice, maxFee, maxPriorityFee⟩ := fields
  cases gasPrice <;> cases maxFee <;> cases maxPriorityFee <;>
    simp [fees, IsHalfSet] at hfees hhalf
  exact ⟨nofun, nofun, nofun⟩

lemma IsHalfSet.fees_eq_none {fields : FeeFields} (hhalf : fields.IsHalfSet) :
    fields.fees = none := by
  obtain ⟨gasPrice, maxFee, maxPriorityFee⟩ := fields
  obtain ⟨hprice, hfee⟩ := hhalf
  cases gasPrice <;> cases maxFee <;> cases maxPriorityFee <;> simp_all [fees]

end FeeFields

namespace CallRequest

/-- A step of filling leaves the fee fields alone or makes fees of fields that did not make up
any. -/
lemma FillStep.feeFields {r r' : CallRequest} (h : FillStep r r') :
    r'.feeFields = r.feeFields ∨ r.fees = none ∧ ∃ fees : Fees, r'.feeFields = fees.fields := by
  cases h with
  | chainId | nonce | gas => exact .inl rfl
  | fees h fees => exact .inr ⟨h, fees, rfl⟩

/-- Once there are fees, the fee fields stay, so that they are set at most once. -/
lemma Fills.feeFields {r r' : CallRequest} (h : Fills r r') :
    r'.feeFields = r.feeFields ∨ r.fees = none ∧ ∃ fees : Fees, r'.feeFields = fees.fields := by
  induction h with
  | refl => exact .inl rfl
  | tail _ hstep ih =>
    rcases ih with heq | ⟨hnone, fees, heq⟩
    · rcases hstep.feeFields with hstep | ⟨hnone, hset⟩
      · exact .inl (hstep.trans heq)
      · exact .inr ⟨(congrArg FeeFields.fees heq).symm.trans hnone, hset⟩
    · rcases hstep.feeFields with hstep | ⟨hlacking, -⟩
      · exact .inr ⟨hnone, fees, hstep.trans heq⟩
      · rw [CallRequest.fees, heq, FeeFields.fees_fields] at hlacking
        cases hlacking

/-- A request with fees that comes of filling has the fee fields that were set before, or, where
those do not make up fees, those of an estimate. -/
lemma Fills.feeFields_of_isSome {r r' : CallRequest} (h : Fills r r') (hfees : r'.fees.isSome) :
    (r.fees ≠ none → r'.feeFields = r.feeFields) ∧
      (r.fees = none → ∃ fees : Fees, r'.feeFields = fees.fields) := by
  rcases h.feeFields with heq | ⟨hnone, hset⟩
  · refine ⟨fun _ => heq, fun hnone => ?_⟩
    rw [CallRequest.fees, heq] at hfees
    rw [CallRequest.fees] at hnone
    simp [hnone] at hfees
  · exact ⟨fun hsome => absurd hnone hsome, fun _ => hset⟩

end CallRequest

/-! ### Fees are filled in -/

lemma CallRequest.fees_setFees (r : CallRequest) (fees : Fees) :
    (r.setFees fees).fees = some fees :=
  FeeFields.fees_fields fees

lemma SimulatedChain.isSome_fees_filled (r : CallRequest) :
    (SimulatedChain.filled r).fees.isSome := by
  rw [SimulatedChain.filled]
  split
  · rw [CallRequest.fees_setFees, Option.isSome_some]
  · next hfees => exact Option.isSome_iff_ne_none.mpr (mt Option.isNone_iff_eq_none.mpr hfees)

namespace JsonRpcNode

variable {σ : Type} [JsonRpcServer σ]

lemma ensures_isSome_addFees (r : CallRequest) :
    Ensures (addFees r : Query (JsonRpcNode σ) CallRequest) (·.fees.isSome) := by
  rw [addFees]
  split
  · refine .map fun fees => ?_
    rw [CallRequest.fees_setFees, Option.isSome_some]
  · next hfees =>
    exact .pure (Option.isSome_iff_ne_none.mpr (mt Option.isNone_iff_eq_none.mpr hfees))

lemma ensures_isSome_fill (r : CallRequest) :
    Ensures (fill r : Query (JsonRpcNode σ) CallRequest) (·.fees.isSome) := by
  rw [fill_eq]
  refine .bind (ensures_addChainId r) fun r₁ _ => .bind (ensures_addNonce r₁) fun r₂ _ =>
    .bind (ensures_isSome_addFees r₂) fun r₃ h₃ => ?_
  intro s filled hfilled
  obtain ⟨fees, hfees⟩ := Option.isSome_iff_exists.mp h₃
  have hkept := CallRequest.IsFilledTo.of_fills (ensures_addGas r₃ s filled hfilled)
  rw [hkept.fees_eq fees hfees, Option.isSome_some]

end JsonRpcNode

/-! ### What stays -/

namespace CallRequest

/-- What a fill does to a request: all that is set stays, except for a half of dynamic fees, which
gives way to an estimate. -/
structure FilledExceptHalf (r filled : CallRequest) : Prop where
  isFilledTo : r.IsFilledTo filled
  staysIn : ¬r.feeFields.IsHalfSet → r.feeFields.StaysIn filled.feeFields
  replaced : r.feeFields.IsHalfSet → ∃ fees : Fees, filled.feeFields = fees.fields

lemma Fills.filledExceptHalf {r filled : CallRequest} (h : Fills r filled)
    (hfees : filled.fees.isSome) : r.FilledExceptHalf filled where
  isFilledTo := .of_fills h
  staysIn hhalf := by
    obtain ⟨hkept, -⟩ := h.feeFields_of_isSome hfees
    by_cases hnone : r.fees = none
    · exact FeeFields.staysIn_of_fees_eq_none hnone hhalf _
    · exact hkept hnone ▸ .refl _
  replaced hhalf := (h.feeFields_of_isSome hfees).2 hhalf.fees_eq_none

end CallRequest

/-- Filling sets what is missing. Every field that is set stays as it is, on a simulated chain and
on a node behind JSON-RPC whatever its server answers, unless the fee fields are half set. These are
replaced. -/
theorem fill_keeps_what_is_set (r : CallRequest) :
    Ensures (Node.fill r : Query SimulatedChain CallRequest) r.FilledExceptHalf ∧
      ∀ (σ : Type) [JsonRpcServer σ],
        Ensures (Node.fill r : Query (JsonRpcNode σ) CallRequest) r.FilledExceptHalf := by
  constructor
  · intro s filled hfilled
    obtain rfl := Except.ok.inj hfilled
    exact (SimulatedChain.fills_filled r).filledExceptHalf (SimulatedChain.isSome_fees_filled r)
  · intro σ _ s filled hfilled
    exact (JsonRpcNode.ensures_fill r s filled hfilled).filledExceptHalf
      (JsonRpcNode.ensures_isSome_fill r s filled hfilled)

/-- A maximum without a priority fee is lost: the estimate of the node takes its place. -/
theorem exists_fill_replaces_maxFee :
    let r : CallRequest := { target := 0, data := [], feeFields := { maxFee := some 5 } }
    r.feeFields.maxFee = some 5 ∧
      ∃ filled, ((Node.fill r : Query SimulatedChain CallRequest).run.run {}).1 = .ok filled ∧
        filled.feeFields.maxFee = some 2000000000 :=
  ⟨rfl, _, rfl, rfl⟩

end ContractCalls
