import ContractCalls.Proofs.Abi.RoundTrip
import ContractCalls.Proofs.Simulation.Revert

/-!
# Reading revert data

Revert data are read back as the error that they were written for: a registered custom error with
its fields, or else the reason of an `Error(string)` or the code of a `Panic(uint256)`. Registered
errors go first, even one with the selector of a standard error. Whatever the data are, the node is
not blamed for them, and no call is said not to be executed.
-/

namespace ContractCalls

open AbiValue Abi

/-! ### Custom errors -/

namespace ErrorDefinition

variable {d : ErrorDefinition} {values : List AbiValue}

/-- Encoded fields are read back in their normal form. -/
lemma decode_layOut (hinputs : ∀ t ∈ d.inputs, t.IsWellFormed) (htyped : HaveTypes values d.inputs)
    (hpadded : ForAllLeaves IsPadded values d.inputs)
    (hlen : (layOut (fields values d.inputs)).length < Size.limit) :
    d.decode (layOut (fields values d.inputs)) =
      .ok (d.build d.name d.selector (normalForms values d.inputs)) :=
  Except.bind_eq_ok_iff.mpr ⟨_, (decode_layOut_iff htyped hinputs hlen _).mpr ⟨hpadded, rfl⟩, rfl⟩

end ErrorDefinition

namespace ErrorRegistry

variable {r : ErrorRegistry}

lemma decodeRevert_of_lookup {d : ErrorDefinition} {body : Bytes} {error : CustomError}
    (hlookup : r.lookup d.selector = some d) (hbody : d.decode body = .ok error) :
    r.decodeRevert (Bytes.ofBitVec d.selector ++ body) = .custom error := by
  rw [decodeRevert, if_neg (Bytes.four_le_length_selector_append _ _).not_gt]
  simp only [Bytes.toBitVec_take_selector_append, Bytes.drop_selector_append, hlookup, hbody]

/-! ### Standard errors -/

lemma ofText_string : Selector.ofText "Error(string)" = stringSelector := by
  decide +kernel

lemma ofText_panic : Selector.ofText "Panic(uint256)" = panicSelector := by
  decide +kernel

lemma haveTypes_reason (reason : String) : HaveTypes [.string reason] [.string] :=
  .cons (.string reason) .nil

lemma haveTypes_code (code : Word) : HaveTypes [.uint code 256] [.uint 256] :=
  .cons (.uint 256 rfl) .nil

lemma decode_string {reason : String}
    (hlen : (layOut (fields [.string reason] [.string])).length < Size.limit) :
    decode (layOut (fields [.string reason] [.string])) [.string] = .ok [.string reason] := by
  refine (decode_layOut_iff (haveTypes_reason reason) (by decide +kernel) hlen _).mpr ⟨?_, ?_⟩
  · simp only [ForAllLeaves, ForLeaves, IsPadded, and_self]
  · simp only [normalForms, normalForm]

lemma decode_code (code : Word) :
    decode (layOut (fields [.uint code 256] [.uint 256])) [.uint 256] = .ok [.uint code 256] := by
  have hlen : (layOut (fields [.uint code 256] [.uint 256])).length = 32 := by
    rw [layOut_of_static (by simp [fields, AbiType.isDynamic])]
    simp [fields, encodeValue]
  refine (decode_layOut_iff (haveTypes_code code) (by decide +kernel) ?_ _).mpr ⟨?_, ?_⟩
  · rw [hlen]
    decide
  · simp only [ForAllLeaves, ForLeaves, IsPadded, and_self]
  · simp only [normalForms, normalForm]

lemma decodeRevert_string {reason : String} (hlookup : r.lookup stringSelector = none)
    (hlen : (layOut (fields [.string reason] [.string])).length < Size.limit) :
    r.decodeRevert (errorString reason) = .revert reason := by
  rw [errorString, decodeRevert, if_neg (Bytes.four_le_length_selector_append _ _).not_gt]
  simp only [Bytes.toBitVec_take_selector_append, Bytes.drop_selector_append, hlookup,
    decode_string hlen, if_true]

lemma decodeRevert_panic (hlookup : r.lookup panicSelector = none) (code : Word) :
    r.decodeRevert (Bytes.ofBitVec panicSelector ++ layOut (fields [.uint code 256] [.uint 256])) =
      .panic code := by
  have hne : panicSelector ≠ stringSelector := by decide
  rw [decodeRevert, if_neg (Bytes.four_le_length_selector_append _ _).not_gt]
  simp only [Bytes.toBitVec_take_selector_append, Bytes.drop_selector_append, hlookup,
    decode_code, hne, if_true, if_false]

/-! ### All revert data -/

/-- What revert data can stand for. Data that the definition of their error refuses are kept
whole. -/
lemma decodeRevert_cases (r : ErrorRegistry) (data : Bytes) :
    (∃ error, r.decodeRevert data = .custom error) ∨
      (∃ reason, r.decodeRevert data = .revert reason) ∨
      (∃ code, r.decodeRevert data = .panic code) ∨
        ∃ err, r.decodeRevert data = .ofAbi data err := by
  rw [decodeRevert, hexRevert]
  dsimp only
  repeat' split
  all_goals simp

lemma decodeRevert_ne_notExecuted (r : ErrorRegistry) (data : Bytes) :
    r.decodeRevert data ≠ .notExecuted := by
  rcases r.decodeRevert_cases data with ⟨_, h⟩ | ⟨_, h⟩ | ⟨_, h⟩ | ⟨_, h⟩
  all_goals
    rw [h]
    exact ContractError.noConfusion

lemma decodeRevert_ne_provider (r : ErrorRegistry) (data : Bytes) (error : RpcError) :
    r.decodeRevert data ≠ .provider error := by
  rcases r.decodeRevert_cases data with ⟨_, h⟩ | ⟨_, h⟩ | ⟨_, h⟩ | ⟨_, h⟩
  all_goals
    rw [h]
    exact ContractError.noConfusion

/-- Reading revert data undoes writing them, for registered errors and for the standard ones, also
if they come in an error response of the node. The length of an encoding has to be a size, as for
every buffer. -/
theorem decodeRevert_encode (r : ErrorRegistry) :
    (∀ d : ErrorDefinition, r.lookup d.selector = some d → (∀ t ∈ d.inputs, t.IsWellFormed) →
      ∀ values, checkTypes values d.inputs = .ok () → ForAllLeaves IsPadded values d.inputs →
        ∃ data, encode values d.inputs = .ok data ∧ (data.length < Size.limit →
          r.decodeRevert (Bytes.ofBitVec d.selector ++ data) =
            .custom (d.build d.name d.selector (normalForms values d.inputs)))) ∧
    (r.lookup (Selector.ofText "Error(string)") = none → ∀ reason, ∃ data,
      encode [.string reason] [.string] = .ok data ∧
      errorString reason = Bytes.ofBitVec (Selector.ofText "Error(string)") ++ data ∧
      (data.length < Size.limit → r.decodeRevert (errorString reason) = .revert reason)) ∧
    (r.lookup (Selector.ofText "Panic(uint256)") = none → ∀ code, ∃ data,
      encode [.uint code 256] [.uint 256] = .ok data ∧
      r.decodeRevert (Bytes.ofBitVec (Selector.ofText "Panic(uint256)") ++ data) = .panic code) ∧
    ∀ data, r.translate (revertResponse data) = r.decodeRevert data ∧
      r.decodeRevert data ≠ .notExecuted ∧ ∀ error, r.decodeRevert data ≠ .provider error := by
  rw [ofText_string, ofText_panic]
  refine ⟨?custom, ?string, ?panic, ?all⟩
  case custom =>
    intro d hlookup hinputs values hvalues hpadded
    have htyped := checkTypes_eq_ok_iff.mp hvalues
    refine ⟨_, encode_eq_ok_iff.mpr ⟨htyped, rfl⟩, fun hlen => ?_⟩
    exact decodeRevert_of_lookup hlookup (ErrorDefinition.decode_layOut hinputs htyped hpadded hlen)
  case string =>
    intro hlookup reason
    exact ⟨_, encode_eq_ok_iff.mpr ⟨haveTypes_reason reason, rfl⟩, rfl, decodeRevert_string hlookup⟩
  case panic =>
    intro hlookup code
    exact ⟨_, encode_eq_ok_iff.mpr ⟨haveTypes_code code, rfl⟩, decodeRevert_panic hlookup code⟩
  case all =>
    intro data
    exact ⟨r.translate_revertResponse data, r.decodeRevert_ne_notExecuted data,
      r.decodeRevert_ne_provider data⟩

/-- An error with a builder of its own, fields that are not in normal form, and both standard
errors. -/
theorem decodeRevert_encode_refused :
    let d : ErrorDefinition :=
      { name := "Refused", inputs := [.uint 8, .struct "Pair" [.fixedBytes 2, .string]]
        build := fun _ selector fields => ⟨"Limit", selector, fields⟩ }
    let r : ErrorRegistry := ⟨[d]⟩
    let values : List AbiValue :=
      [.uint 200 256, .tuple [.fixedBytes (0xabcd <<< 240) 1, .string "a"]]
    (r.lookup d.selector = some d ∧ (∀ t ∈ d.inputs, t.IsWellFormed) ∧
      checkTypes values d.inputs = .ok () ∧ ForAllLeaves IsPadded values d.inputs) ∧
    (r.lookup (Selector.ofText "Error(string)") = none ∧
      r.lookup (Selector.ofText "Panic(uint256)") = none) ∧
    (∃ data, encode values d.inputs = .ok data ∧
      r.decodeRevert (Bytes.ofBitVec d.selector ++ data) = .custom ⟨"Limit", d.selector,
        [.uint 200 8, .struct "Pair" [.fixedBytes (0xabcd <<< 240) 2, .string "a"]]⟩) ∧
    r.translate (revertResponse (errorString "paused")) = .revert "paused" ∧
    ∃ data, encode [.uint 0x11 256] [.uint 256] = .ok data ∧
      r.decodeRevert (Bytes.ofBitVec (Selector.ofText "Panic(uint256)") ++ data) = .panic 0x11 := by
  intro d r values
  have hlookup : r.lookup d.selector = some d := List.find?_cons_of_pos (beq_self_eq_true _)
  have hinputs : ∀ t ∈ d.inputs, t.IsWellFormed := by decide +kernel
  have hvalues : checkTypes values d.inputs = .ok () := by decide +kernel
  have hpadded : ForAllLeaves IsPadded values d.inputs := by
    simp only [d, values, ForAllLeaves, ForLeaves, IsPadded, true_and, and_true]
    decide +kernel
  have hselector : d.selector = 0xc549a96e := by decide +kernel
  have hstring : r.lookup (Selector.ofText "Error(string)") = none := by
    rw [ofText_string]
    exact List.find?_cons_of_neg (by simp [hselector, stringSelector])
  have hpanic : r.lookup (Selector.ofText "Panic(uint256)") = none := by
    rw [ofText_panic]
    exact List.find?_cons_of_neg (by simp [hselector, panicSelector])
  obtain ⟨hcustom, hreason, hcode, hall⟩ := r.decodeRevert_encode
  obtain ⟨data, hdata, hread⟩ := hcustom d hlookup hinputs values hvalues hpadded
  have hlen : data.length < Size.limit := by
    rw [(encode_eq_ok_iff.mp hdata).2]
    decide +kernel
  obtain ⟨body, hbody, -, hpaused⟩ := hreason hstring "paused"
  have hbodyLen : body.length < Size.limit := by
    rw [(encode_eq_ok_iff.mp hbody).2]
    decide +kernel
  exact ⟨⟨hlookup, hinputs, hvalues, hpadded⟩, ⟨hstring, hpanic⟩, ⟨data, hdata, hread hlen⟩,
    (hall _).1.trans (hpaused hbodyLen), hcode hpanic 0x11⟩

end ErrorRegistry

end ContractCalls
