import ContractCalls.Abi.Typing
import ContractCalls.Proofs.Bytes

/-!
# The typing relation

Which values stand for which types, as an inductive relation: it has one rule for each way in which
a value can be accepted, and the check accepts exactly what has a derivation. An array is a sequence
of values for copies of one type.
-/

namespace ContractCalls

mutual

/-- A value may stand for a type. -/
inductive HasType : AbiValue → AbiType → Prop where
  | address (account : Address) : HasType (.address account) .address
  | bool (flag : Bool) : HasType (.bool flag) .bool
  | uint {value : Word} {bits : Nat} (width : Nat) (h : AbiValue.fitsUint value bits = true) :
      HasType (.uint value width) (.uint bits)
  | int {value : Word} {bits : Nat} (width : Nat) (h : AbiValue.fitsInt value bits = true) :
      HasType (.int value width) (.int bits)
  | fixedBytes (word : Word) {length size : Nat} (h : length ≤ size) :
      HasType (.fixedBytes word length) (.fixedBytes size)
  | bytes (data : Bytes) : HasType (.bytes data) .bytes
  | string (text : String) : HasType (.string text) .string
  | array {elems : List AbiValue} {elem : AbiType}
      (h : HaveTypes elems (List.replicate elems.length elem)) :
      HasType (.array elems) (.array elem)
  | fixedArray {elems : List AbiValue} {elem : AbiType} {length : UInt64}
      (hlen : elems.length = length.toNat)
      (h : HaveTypes elems (List.replicate elems.length elem)) :
      HasType (.fixedArray elems) (.fixedArray elem length)
  | tuple {values : List AbiValue} {types : List AbiType} (h : HaveTypes values types) :
      HasType (.tuple values) (.tuple types)
  | tupleAsStruct {values : List AbiValue} {types : List AbiType} (name : String)
      (h : HaveTypes values types) : HasType (.tuple values) (.struct name types)
  | struct {values : List AbiValue} {types : List AbiType} (given name : String)
      (h : HaveTypes values types) : HasType (.struct given values) (.struct name types)

/-- Each value may stand for the type at its place. -/
inductive HaveTypes : List AbiValue → List AbiType → Prop where
  | nil : HaveTypes [] []
  | cons {v : AbiValue} {t : AbiType} {vs : List AbiValue} {ts : List AbiType}
      (h : HasType v t) (hs : HaveTypes vs ts) : HaveTypes (v :: vs) (t :: ts)

end

lemma HaveTypes.length_eq {values : List AbiValue} {types : List AbiType}
    (h : HaveTypes values types) : values.length = types.length := by
  induction values generalizing types with
  | nil =>
    cases h
    rfl
  | cons v vs ih =>
    cases h with
    | cons _ hs => rw [List.length_cons, List.length_cons, ih hs]

lemma haveTypes_replicate_iff {values : List AbiValue} {t : AbiType} :
    HaveTypes values (List.replicate values.length t) ↔ ∀ v ∈ values, HasType v t := by
  induction values with
  | nil => simpa using HaveTypes.nil
  | cons v vs ih =>
    rw [List.length_cons, List.replicate_succ, List.forall_mem_cons, ← ih]
    constructor
    · rintro (_ | ⟨h, hs⟩)
      exact ⟨h, hs⟩
    · rintro ⟨h, hs⟩
      exact .cons h hs

namespace AbiValue

/-! ### What has a type is accepted -/

mutual

lemma checkType_of_hasType {v : AbiValue} {t : AbiType} (h : HasType v t) :
    v.checkType t = .ok () := by
  match h with
  | .address _ | .bool _ | .bytes _ | .string _ => rfl
  | .uint _ h | .int _ h => rw [checkType, if_pos h]
  | .fixedBytes _ h => rw [checkType, if_pos h]
  | .array h => rw [checkType, checkEach_of_haveTypes h rfl]
  | .fixedArray hlen h => rw [checkType, if_pos hlen, checkEach_of_haveTypes h rfl]
  | .tuple h | .tupleAsStruct _ h | .struct _ _ h =>
    rw [checkType, if_pos h.length_eq, checkPairs_of_haveTypes h]

lemma checkEach_of_haveTypes {vs : List AbiValue} {t : AbiType} {ts : List AbiType}
    (h : HaveTypes vs ts) (hts : ts = List.replicate vs.length t) : checkEach vs t = .ok () := by
  match h with
  | .nil => rw [checkEach]
  | .cons h hs =>
    rw [List.length_cons, List.replicate_succ, List.cons.injEq] at hts
    obtain ⟨rfl, hts⟩ := hts
    rw [checkEach, checkType_of_hasType h]
    exact checkEach_of_haveTypes hs hts

lemma checkPairs_of_haveTypes {vs : List AbiValue} {ts : List AbiType} (h : HaveTypes vs ts) :
    checkPairs vs ts = .ok () := by
  match h with
  | .nil => rw [checkPairs]; simp
  | .cons h hs =>
    rw [checkPairs, checkType_of_hasType h]
    exact checkPairs_of_haveTypes hs

end

/-! ### What is accepted has a type -/

mutual

lemma hasType_of_checkType (v : AbiValue) (t : AbiType) (h : v.checkType t = .ok ()) :
    HasType v t := by
  match v with
  | .address account =>
    cases t <;> simp [checkType] at h
    exact .address account
  | .bool flag =>
    cases t <;> simp [checkType] at h
    exact .bool flag
  | .uint value width =>
    cases t <;> simp [checkType] at h
    exact .uint width h
  | .int value width =>
    cases t <;> simp [checkType] at h
    exact .int width h
  | .fixedBytes word size =>
    cases t <;> simp [checkType] at h
    exact .fixedBytes word h
  | .bytes data =>
    cases t <;> simp [checkType] at h
    exact .bytes data
  | .string text =>
    cases t <;> simp [checkType] at h
    exact .string text
  | .array elems =>
    cases t <;> simp [checkType] at h
    exact .array (haveTypes_of_checkEach elems _ h)
  | .fixedArray elems =>
    cases t <;> simp [checkType, Except.ite_error_eq_ok_iff] at h
    exact .fixedArray h.1 (haveTypes_of_checkEach elems _ h.2)
  | .tuple values =>
    cases t <;> simp [checkType, Except.ite_error_eq_ok_iff] at h
    · exact .tuple (haveTypes_of_checkPairs values _ h.1 h.2)
    · exact .tupleAsStruct _ (haveTypes_of_checkPairs values _ h.1 h.2)
  | .struct given values =>
    cases t <;> simp [checkType, Except.ite_error_eq_ok_iff] at h
    exact .struct given _ (haveTypes_of_checkPairs values _ h.1 h.2)

lemma haveTypes_of_checkEach (vs : List AbiValue) (t : AbiType) (h : checkEach vs t = .ok ()) :
    HaveTypes vs (List.replicate vs.length t) := by
  match vs with
  | [] => exact .nil
  | v :: vs =>
    rw [checkEach, Except.bind_eq_ok_iff] at h
    obtain ⟨⟨⟩, hv, hvs⟩ := h
    exact .cons (hasType_of_checkType v t hv) (haveTypes_of_checkEach vs t hvs)

lemma haveTypes_of_checkPairs (vs : List AbiValue) (ts : List AbiType)
    (hlen : vs.length = ts.length) (h : checkPairs vs ts = .ok ()) : HaveTypes vs ts := by
  match vs, ts with
  | [], [] => exact .nil
  | [], _ :: _ | _ :: _, [] => simp at hlen
  | v :: vs, t :: ts =>
    rw [checkPairs, Except.bind_eq_ok_iff] at h
    obtain ⟨⟨⟩, hv, hvs⟩ := h
    exact .cons (hasType_of_checkType v t hv)
      (haveTypes_of_checkPairs vs ts (Nat.succ.inj hlen) hvs)

end

/-- The check of a list of values accepts just those that have the types at their places. -/
theorem checkTypes_eq_ok_iff {values : List AbiValue} {types : List AbiType} :
    checkTypes values types = .ok () ↔ HaveTypes values types := by
  rw [checkTypes]
  constructor
  · intro h
    split at h
    · exact haveTypes_of_checkPairs values types ‹_› h
    · simp at h
  · intro h
    rw [if_pos h.length_eq, checkPairs_of_haveTypes h]

theorem checkType_eq_ok_iff {v : AbiValue} {t : AbiType} : v.checkType t = .ok () ↔ HasType v t :=
  ⟨hasType_of_checkType v t, checkType_of_hasType⟩

end AbiValue

end ContractCalls
