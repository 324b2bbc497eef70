import ContractCalls.Multicall.Batch
import ContractCalls.Proofs.Abi.Bounds
import ContractCalls.Proofs.Abi.RoundTrip

/-!
# Batches and their results

A batch can always be encoded, and it is read back if its layout keeps everything that its calls
say. The results of a batch are read back too.
-/

namespace ContractCalls

open AbiValue Abi

/-! ### Layouts -/

namespace Strategy

/-- The layout keeps everything that a call says: what it leaves out is as reading it assumes. -/
def Keeps : Strategy → BatchCall → Prop
  | aggregate3Value, _ => True
  | aggregate3, call => call.value = 0
  | tryAggregate requireSuccess, call => call.value = 0 ∧ call.allowFailure = !requireSuccess

lemma isWellFormed_inputs (s : Strategy) : ∀ t ∈ s.function.inputs, t.IsWellFormed := by
  cases s with
  | aggregate3Value | aggregate3 => decide +kernel
  | tryAggregate requireSuccess => cases requireSuccess <;> decide +kernel

lemma isWellFormed_resultType : resultType.IsWellFormed := by
  decide +kernel

lemma selector_aggregate3Value : aggregate3Value.function.selector = 0x174dea71 := by
  decide +kernel

lemma selector_aggregate3 : aggregate3.function.selector = 0x82ad56cb := by
  decide +kernel

lemma selector_tryAggregate (requireSuccess : Bool) :
    (tryAggregate requireSuccess).function.selector = 0xbce38bd7 := by
  have h : (tryAggregate false).function.selector = 0xbce38bd7 := by decide +kernel
  exact h

/-- The strategy with the flag of the last layout cleared, which stands in the arguments. -/
def forSelector : Strategy → Strategy
  | tryAggregate _ => tryAggregate false
  | s => s

lemma function_forSelector (s : Strategy) : s.forSelector.function = s.function := by
  cases s <;> rfl

/-- The layouts are told apart by their selectors. -/
lemma find?_selector (s : Strategy) :
    [aggregate3Value, aggregate3, tryAggregate false].find?
      (s.function.selector == ·.function.selector) = some s.forSelector := by
  cases s <;>
    simp [selector_aggregate3Value, selector_aggregate3, selector_tryAggregate, forSelector]

end Strategy

namespace BatchCall

lemma hasType_toValue (call : BatchCall) (s : Strategy) : HasType (call.toValue s) s.callType := by
  cases s with
  | aggregate3Value =>
    exact .tuple
      (.cons (.address _) (.cons (.bool _) (.cons (.uint 256 rfl) (.cons (.bytes _) .nil))))
  | aggregate3 => exact .tuple (.cons (.address _) (.cons (.bool _) (.cons (.bytes _) .nil)))
  | tryAggregate => exact .tuple (.cons (.address _) (.cons (.bytes _) .nil))

lemma isPadded_toValue (call : BatchCall) (s : Strategy) :
    (call.toValue s).ForLeaves IsPadded s.callType := by
  cases s <;> simp [toValue, Strategy.callType, ForLeaves, ForAllLeaves, IsPadded, ofUint256]

lemma normalForm_toValue (call : BatchCall) (s : Strategy) :
    (call.toValue s).normalForm s.callType = call.toValue s := by
  cases s <;> simp [toValue, Strategy.callType, normalForm, normalForms, ofUint256]

lemma ofValue?_toValue {call : BatchCall} {s : Strategy} (h : s.Keeps call) :
    ofValue? s (call.toValue s) = some call := by
  obtain ⟨target, allowFailure, value, data⟩ := call
  cases s with
  | aggregate3Value => rfl
  | aggregate3 =>
    obtain rfl : value = 0 := h
    rfl
  | tryAggregate requireSuccess =>
    obtain ⟨hvalue, hflag⟩ : value = 0 ∧ allowFailure = !requireSuccess := h
    rw [hvalue, hflag]
    rfl

end BatchCall

/-! ### Batches -/

namespace Batch

/-- The calls as the argument of the function that takes the layout. -/
lemma hasType_calls (b : Batch) :
    HasType (.array (b.calls.map (·.toValue b.strategy))) (.array b.strategy.callType) := by
  refine .array (haveTypes_replicate_iff.mpr fun v hv => ?_)
  obtain ⟨call, -, rfl⟩ := List.mem_map.mp hv
  exact call.hasType_toValue b.strategy

lemma haveTypes_args (b : Batch) : HaveTypes b.args b.strategy.function.inputs := by
  have h := b.hasType_calls
  obtain ⟨strategy, calls⟩ := b
  cases strategy with
  | aggregate3Value | aggregate3 => exact .cons h .nil
  | tryAggregate requireSuccess => exact .cons (.bool _) (.cons h .nil)

lemma isPadded_args (b : Batch) : ForAllLeaves IsPadded b.args b.strategy.function.inputs := by
  have h : (AbiValue.array (b.calls.map (·.toValue b.strategy))).ForLeaves IsPadded
      (.array b.strategy.callType) := by
    rw [ForLeaves, forAllLeaves_replicate_iff]
    intro v hv
    obtain ⟨call, -, rfl⟩ := List.mem_map.mp hv
    exact call.isPadded_toValue b.strategy
  obtain ⟨strategy, calls⟩ := b
  cases strategy with
  | aggregate3Value | aggregate3 =>
    simp only [args, Strategy.function, ForAllLeaves]
    exact ⟨h, trivial⟩
  | tryAggregate requireSuccess =>
    simp only [args, Strategy.function, ForAllLeaves]
    exact ⟨by simp only [ForLeaves, IsPadded], h, trivial⟩

lemma normalForms_args (b : Batch) : normalForms b.args b.strategy.function.inputs = b.args := by
  have h :
      (AbiValue.array (b.calls.map (·.toValue b.strategy))).normalForm
        (.array b.strategy.callType) =
      .array (b.calls.map (·.toValue b.strategy)) := by
    rw [normalForm, normalForms_replicate, List.map_map]
    exact congrArg _ (List.map_congr_left fun call _ => call.normalForm_toValue b.strategy)
  obtain ⟨strategy, calls⟩ := b
  cases strategy with
  | aggregate3Value | aggregate3 =>
    simp only [args, Strategy.function, normalForms] at h ⊢
    rw [h]
  | tryAggregate requireSuccess =>
    simp only [args, Strategy.function, normalForms] at h ⊢
    rw [h]
    simp only [normalForm]

/-- The calldata of a batch. -/
def calldata (b : Batch) : Bytes :=
  Bytes.ofBitVec b.strategy.function.selector ++ layOut (fields b.args b.strategy.function.inputs)

/-- A batch can always be encoded. -/
lemma encode_eq (b : Batch) : b.encode = .ok b.calldata := by
  have h := encode_eq_ok_iff.mpr ⟨b.haveTypes_args, rfl⟩
  rw [encode, AbiFunction.encodeCall, h]
  rfl

lemma decode_args {b : Batch} (hlen : b.calldata.length < Size.limit) :
    decode (layOut (fields b.args b.strategy.function.inputs)) b.strategy.function.inputs =
      .ok b.args := by
  rw [calldata, List.length_append] at hlen
  rw [decode_layOut_iff b.haveTypes_args b.strategy.isWellFormed_inputs (by omega)]
  exact ⟨b.isPadded_args, b.normalForms_args.symm⟩

/-- Behind the selector of a layout are its arguments. -/
lemma decode?_selector_append (s : Strategy) (data : Bytes) :
    decode? (Bytes.ofBitVec s.function.selector ++ data) =
      (decode data s.function.inputs).toOption.bind (ofArgs? s.forSelector) := by
  rw [decode?]
  simp only [Bytes.four_le_length_selector_append, Bytes.toBitVec_take_selector_append, decide_true,
    Bool.true_and, Strategy.find?_selector, Option.bind_eq_bind, Option.bind_some]
  rw [← s.function_forSelector, decodeInput_selector_append]

lemma ofArgs?_args {b : Batch} (hkeeps : ∀ call ∈ b.calls, b.strategy.Keeps call) :
    ofArgs? b.strategy.forSelector b.args = some b := by
  obtain ⟨strategy, calls⟩ := b
  have hcalls : (calls.map (·.toValue strategy)).mapM (BatchCall.ofValue? strategy) = some calls :=
    List.mapM_map_eq_pure fun call hcall => BatchCall.ofValue?_toValue (hkeeps call hcall)
  cases strategy with
  | aggregate3Value | aggregate3 | tryAggregate =>
    simp only [Strategy.forSelector, args, ofArgs?, hcalls, Option.bind_eq_bind, Option.bind_some]
    rfl

/-- A batch whose layout keeps everything is read back. -/
theorem decode?_calldata {b : Batch} (hkeeps : ∀ call ∈ b.calls, b.strategy.Keeps call)
    (hlen : b.calldata.length < Size.limit) : decode? b.calldata = some b := by
  rw [calldata, decode?_selector_append, decode_args hlen]
  exact ofArgs?_args hkeeps

end Batch

/-! ### Results -/

/-- A result as it stands in the answer to a batch. -/
def resultValue (result : Bool × Bytes) : AbiValue :=
  .tuple [.bool result.1, .bytes result.2]

lemma hasType_results (results : List (Bool × Bytes)) :
    HasType (.array (results.map resultValue)) Strategy.resultType := by
  refine .array (haveTypes_replicate_iff.mpr fun v hv => ?_)
  obtain ⟨result, -, rfl⟩ := List.mem_map.mp hv
  exact .tuple (.cons (.bool _) (.cons (.bytes _) .nil))

lemma isPadded_results (results : List (Bool × Bytes)) :
    (AbiValue.array (results.map resultValue)).ForLeaves IsPadded Strategy.resultType := by
  rw [Strategy.resultType, ForLeaves, forAllLeaves_replicate_iff]
  intro v hv
  obtain ⟨result, -, rfl⟩ := List.mem_map.mp hv
  simp [resultValue, ForLeaves, ForAllLeaves, IsPadded]

lemma normalForm_results (results : List (Bool × Bytes)) :
    (AbiValue.array (results.map resultValue)).normalForm Strategy.resultType =
      .array (results.map resultValue) := by
  rw [Strategy.resultType, normalForm, normalForms_replicate, List.map_map]
  refine congrArg _ (List.map_congr_left fun result _ => ?_)
  simp [resultValue, normalForm, normalForms]

lemma decode_encodeResults {results : List (Bool × Bytes)}
    (hlen : (encodeResults results).length < Size.limit) :
    decode (encodeResults results) [Strategy.resultType] =
      .ok [.array (results.map resultValue)] := by
  have htypes : ∀ t ∈ [Strategy.resultType], t.IsWellFormed :=
    List.forall_mem_singleton.mpr Strategy.isWellFormed_resultType
  refine (decode_layOut_iff (.cons (hasType_results results) .nil) htypes hlen _).mpr ⟨?_, ?_⟩
  · rw [ForAllLeaves]
    exact ⟨isPadded_results results, by simp [ForAllLeaves]⟩
  · rw [normalForms, normalForm_results, normalForms]
    simp

/-- The results of a batch are read back. -/
theorem decodeResults_encodeResults {results : List (Bool × Bytes)}
    (hlen : (encodeResults results).length < Size.limit) :
    decodeResults (encodeResults results) = .ok results := by
  rw [decodeResults, decode_encodeResults hlen]
  exact List.mapM_map_eq_pure fun result _ => rfl

/-- No result is longer than the answer that holds it. -/
lemma length_le_of_mem_results {results : List (Bool × Bytes)}
    (hlen : (encodeResults results).length < Size.limit) :
    ∀ result ∈ results, result.2.length ≤ (encodeResults results).length := by
  intro result hresult
  have hwithin := areWithin_iff.mp (areWithin_of_decode (decode_encodeResults hlen)) _
    (List.mem_singleton_self _)
  rw [IsWithin, areWithin_iff] at hwithin
  have hvalue := hwithin.2 _ (List.mem_map_of_mem hresult)
  simp only [resultValue, IsWithin, AreWithin] at hvalue
  exact hvalue.2.1

end ContractCalls
