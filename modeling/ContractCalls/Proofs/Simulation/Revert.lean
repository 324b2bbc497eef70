import ContractCalls.Proofs.Hex
import ContractCalls.Proofs.Json.Parser
import ContractCalls.Simulation.Chain

/-!
# Reverts over the wire

A simulated chain reports the data of a revert as JSON text, from which a client reads the same
data.
-/

namespace ContractCalls

lemma Hex.isPlain_of_mem_encode {data : Bytes} {c : Char} (hc : c ∈ (Hex.encode data).toList) :
    Json.IsPlain c := by
  rw [Hex.toList_encode, List.mem_cons, List.mem_cons, Hex.digits, List.mem_flatMap] at hc
  rcases hc with rfl | rfl | ⟨b, -, hc⟩
  · decide
  · decide
  · have hb : b.toNat < 256 := b.toNat_lt
    rw [List.mem_pair] at hc
    rcases hc with rfl | rfl
    · exact Hex.digit_plain _ (by omega)
    · exact Hex.digit_plain _ (by omega)

/-- The client takes an error response of a simulated chain for the revert that it reports. -/
theorem ErrorRegistry.translate_revertResponse (r : ErrorRegistry) (data : Bytes) :
    r.translate (revertResponse data) = r.decodeRevert data := by
  have hparse : Json.parse? ("\"" ++ Hex.encode data ++ "\"") = some (.string (Hex.encode data)) :=
    Json.parse?_quoted fun _ => Hex.isPlain_of_mem_encode
  simp only [revertResponse, translate, ErrorResponse.bytes?, Option.bind_eq_bind,
    Option.bind_some, hparse, Json.bytes?, Hex.decode?_encode]

end ContractCalls
