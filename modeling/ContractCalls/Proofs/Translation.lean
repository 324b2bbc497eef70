import ContractCalls.Proofs.Hex
import ContractCalls.Proofs.Rpc.Error
import ContractCalls.Revert.Registry

/-!
# Errors of a node as errors of a contract

An error response with revert data is read as the revert that they describe. Without revert data its
message is all that is left to go by, but a node may also say that there are none by giving an empty
byte string, and then the message is lost.
-/

namespace ContractCalls

/-! ### Error responses with an empty byte string -/

namespace Json

/-- A byte string is empty if it is written without digits or as an array without numbers. -/
lemma bytes?_eq_some_nil_iff {json : Json} :
    json.bytes? = some [] ↔ json = array [] ∨ ∃ text ∈ ["", "0x", "0X"], json = string text := by
  cases json with
  | string text => simp [bytes?, Hex.decode?_eq_some_nil_iff]
  | array items =>
    cases items with
    | nil => simp [bytes?]
    | cons item items => simp [bytes?, Option.bind_eq_some_iff]
  | null | bool | integer | decimal | object => simp [bytes?]

end Json

/-- The bytes in the data of an error response, if there are any. -/
def ErrorResponse.revertData? (response : ErrorResponse) : Option Bytes :=
  response.bytes?.filter (· ≠ [])

/-- An error response whose data are an empty byte string. -/
def RpcError.HasEmptyData (error : RpcError) : Prop :=
  ∃ response, error = .response response ∧ response.bytes? = some []

namespace RpcError

lemma hasEmptyData_response_iff {response : ErrorResponse} :
    (RpcError.response response).HasEmptyData ↔ response.bytes? = some [] := by
  simp [HasEmptyData]

/-- An empty byte string is given as a text without digits or as an empty array. -/
lemma hasEmptyData_iff {error : RpcError} : error.HasEmptyData ↔
    ∃ response json, error = .response response ∧ response.data >>= Json.parse? = some json ∧
      (json = .array [] ∨ ∃ text ∈ ["", "0x", "0X"], json = .string text) := by
  simp only [HasEmptyData, ErrorResponse.bytes?, Option.bind_eq_bind, Option.bind_eq_some_iff,
    Json.bytes?_eq_some_nil_iff, exists_and_left]

end RpcError

/-! ### What an error stands for -/

namespace ErrorRegistry

/-- What an error of the node stands for: an error response with revert data for the revert that
they describe, any other one for what its message says, and an error that is no response for
itself. -/
inductive StandsFor (r : ErrorRegistry) : RpcError → ContractError → Prop where
  | revertData {response : ErrorResponse} {data : Bytes}
      (hdata : response.revertData? = some data) :
      r.StandsFor (.response response) (r.decodeRevert data)
  | revertMessage {response : ErrorResponse} (hdata : response.revertData? = none)
      (hrevert : ErrorKind.Mentions ErrorKind.revertWordings response.message) :
      r.StandsFor (.response response) (.revert response.message)
  | otherMessage {response : ErrorResponse} (hdata : response.revertData? = none)
      (hother : ¬ErrorKind.Mentions ErrorKind.revertWordings response.message) :
      r.StandsFor (.response response) (.provider (.response response))
  | noResponse {error : RpcError} (hfailure : ∀ response, error ≠ .response response) :
      r.StandsFor error (.provider error)

variable (r : ErrorRegistry)

lemma exists_standsFor (error : RpcError) : ∃ result, r.StandsFor error result := by
  cases error with
  | response response =>
    cases hdata : response.revertData? with
    | some data => exact ⟨_, .revertData hdata⟩
    | none =>
      by_cases hrevert : ErrorKind.Mentions ErrorKind.revertWordings response.message
      · exact ⟨_, .revertMessage hdata hrevert⟩
      · exact ⟨_, .otherMessage hdata hrevert⟩
  | _ => exact ⟨_, .noResponse (by simp)⟩

variable {r} in
lemma StandsFor.unique {error : RpcError} {result other : ContractError}
    (h : r.StandsFor error result) (h' : r.StandsFor error other) : result = other := by
  cases h with
  | revertData hdata =>
    cases h' with
    | revertData hdata' => rw [Option.some_inj.mp (hdata.symm.trans hdata')]
    | revertMessage hdata' | otherMessage hdata' => simp [hdata] at hdata'
    | noResponse hfailure => exact absurd rfl (hfailure _)
  | revertMessage hdata hrevert =>
    cases h' with
    | revertData hdata' => simp [hdata] at hdata'
    | revertMessage => rfl
    | otherMessage _ hother => exact absurd hrevert hother
    | noResponse hfailure => exact absurd rfl (hfailure _)
  | otherMessage hdata hother =>
    cases h' with
    | revertData hdata' => simp [hdata] at hdata'
    | revertMessage _ hrevert => exact absurd hrevert hother
    | otherMessage | noResponse => rfl
  | noResponse hfailure =>
    cases h' with
    | revertData | revertMessage => exact absurd rfl (hfailure _)
    | otherMessage | noResponse => rfl

lemma translate_of_bytes {response : ErrorResponse} {data : Bytes}
    (h : response.bytes? = some data) : r.translate (.response response) = r.decodeRevert data := by
  simp only [translate, h]

/-- Without bytes the message decides. -/
lemma translate_of_no_bytes {response : ErrorResponse} (h : response.bytes? = none) :
    r.translate (.response response) =
      if (ErrorKind.ofMessage response.message).isRevert then .revert response.message
      else .provider (.response response) := by
  simp only [translate, h]

/-- An empty byte string is shown as revert data of no known form. -/
lemma translate_of_hasEmptyData {error : RpcError} (h : error.HasEmptyData) :
    r.translate error = .revert "0x" := by
  obtain ⟨response, rfl, hdata⟩ := h
  rw [r.translate_of_bytes hdata]
  rfl

/-- No error that has an empty byte string for its data stands for the revert that it is taken
for. -/
lemma not_standsFor_of_hasEmptyData {error : RpcError} (h : error.HasEmptyData) :
    ¬r.StandsFor error (.revert "0x") := by
  obtain ⟨response, rfl, hbytes⟩ := h
  have hnone : response.revertData? = none := by simp [ErrorResponse.revertData?, hbytes]
  -- the rules say what the result is, so that it must not be given beforehand
  generalize hresult : ContractError.revert "0x" = result
  rintro (hdata | ⟨-, hrevert⟩ | ⟨-, hother⟩ | hfailure)
  · simp [hnone] at hdata
  · -- the message would be `0x`, which mentions no revert
    rw [← ContractError.revert.inj hresult, ← ErrorKind.isRevert_ofMessage_iff] at hrevert
    exact absurd hrevert (by decide)
  · cases hresult
  · cases hresult

lemma standsFor_translate {error : RpcError} (h : ¬error.HasEmptyData) :
    r.StandsFor error (r.translate error) := by
  cases error with
  | response response =>
    rw [RpcError.hasEmptyData_response_iff] at h
    cases hbytes : response.bytes? with
    | some data =>
      rw [r.translate_of_bytes hbytes]
      refine .revertData ?_
      rw [hbytes, Option.some_inj] at h
      simp [ErrorResponse.revertData?, hbytes, h]
    | none =>
      have hdata : response.revertData? = none := by simp [ErrorResponse.revertData?, hbytes]
      rw [r.translate_of_no_bytes hbytes]
      split
      · next hrevert => exact .revertMessage hdata (ErrorKind.isRevert_ofMessage_iff.mp hrevert)
      · next hother => exact .otherMessage hdata (mt ErrorKind.isRevert_ofMessage_iff.mpr hother)
  | _ => exact .noResponse (by simp)

/-- Every error of the node stands for one error of a contract, and it is translated into that one
unless its data are an empty byte string, which takes the place of the message. -/
theorem standsFor_translate_iff (error : RpcError) :
    (∃! result, r.StandsFor error result) ∧
    (r.StandsFor error (r.translate error) ↔ ¬error.HasEmptyData) ∧
    (error.HasEmptyData → r.translate error = .revert "0x") ∧
    (error.HasEmptyData ↔ ∃ response json, error = .response response ∧
      response.data >>= Json.parse? = some json ∧
      (json = .array [] ∨ ∃ text ∈ ["", "0x", "0X"], json = .string text)) := by
  obtain ⟨result, hresult⟩ := r.exists_standsFor error
  refine ⟨⟨result, hresult, fun _ h => h.unique hresult⟩,
    ⟨fun h hempty => ?_, r.standsFor_translate⟩,
    r.translate_of_hasEmptyData, RpcError.hasEmptyData_iff⟩
  rw [r.translate_of_hasEmptyData hempty] at h
  exact r.not_standsFor_of_hasEmptyData hempty h

/-- A failure that is no revert becomes one, and a revert loses its reason. -/
theorem exists_translate_of_empty_data :
    let r : ErrorRegistry := {}
    let failure := RpcError.response ⟨-32000, "insufficient funds for transfer", some "\"0x\""⟩
    let refusal := RpcError.response ⟨3, "execution reverted: paused", some "\"0x\""⟩
    (r.StandsFor failure (.provider failure) ∧ r.translate failure = .revert "0x") ∧
    (r.StandsFor refusal (.revert "execution reverted: paused") ∧
      r.translate refusal = .revert "0x") := by
  intro r failure refusal
  have hfailure : failure.HasEmptyData := RpcError.hasEmptyData_response_iff.mpr (by decide +kernel)
  have hrefusal : refusal.HasEmptyData := RpcError.hasEmptyData_response_iff.mpr (by decide +kernel)
  refine ⟨⟨.otherMessage (by decide +kernel) ?_, r.translate_of_hasEmptyData hfailure⟩,
    .revertMessage (by decide +kernel) ?_, r.translate_of_hasEmptyData hrefusal⟩
  · rw [← ErrorKind.isRevert_ofMessage_iff]
    decide +kernel
  · rw [← ErrorKind.isRevert_ofMessage_iff]
    decide +kernel

end ErrorRegistry

end ContractCalls
