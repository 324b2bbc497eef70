import ContractCalls.Proofs.Abi.Encoding

/-!
# Normal forms

A type accepts values that differ in what the encoding does not hold: the width that an integer or a
`bytesN` value declares, and the name of a struct. The normal form takes these from the type. It has
the same encoding, and it has the type.
-/

namespace ContractCalls.AbiValue

/-! ### Values without components -/

mutual

/-- All values without components within a value satisfy `p` with the types that they stand for. -/
def ForLeaves (p : AbiValue → AbiType → Prop) : AbiValue → AbiType → Prop
  | array elems, .array elem => ForAllLeaves p elems (List.replicate elems.length elem)
  | fixedArray elems, .fixedArray elem _ =>
    ForAllLeaves p elems (List.replicate elems.length elem)
  | tuple values, .tuple types
  | tuple values, .struct _ types
  | struct _ values, .struct _ types => ForAllLeaves p values types
  | v, t => p v t

/-- The values without components within several values, with the types at their places. -/
def ForAllLeaves (p : AbiValue → AbiType → Prop) : List AbiValue → List AbiType → Prop
  | v :: vs, t :: ts => ForLeaves p v t ∧ ForAllLeaves p vs ts
  | _, _ => True

end

lemma forAllLeaves_replicate_iff {p : AbiValue → AbiType → Prop} {vs : List AbiValue}
    {t : AbiType} : ForAllLeaves p vs (List.replicate vs.length t) ↔ ∀ v ∈ vs, v.ForLeaves p t := by
  induction vs with
  | nil => simp [ForAllLeaves]
  | cons v vs ih =>
    rw [List.length_cons, List.replicate_succ, ForAllLeaves, ih, List.forall_mem_cons]

/-- A `bytesN` word is zero beyond the N bytes of its type. -/
def IsPadded : AbiValue → AbiType → Prop
  | fixedBytes word _, .fixedBytes size => (Bytes.ofBitVec word).drop size = Bytes.zeros (32 - size)
  | _, _ => True

/-- An integer or a `bytesN` value declares the width of its type. -/
def HasWidth : AbiValue → AbiType → Prop
  | uint _ width, .uint bits | int _ width, .int bits => width = bits
  | fixedBytes _ length, .fixedBytes size => length = size
  | _, _ => True

/-! ### Normal forms -/

mutual

/-- The value with the widths of its type, and for a struct with the name of its type. -/
def normalForm : AbiValue → AbiType → AbiValue
  | uint value _, .uint bits => uint value bits
  | int value _, .int bits => int value bits
  | fixedBytes word _, .fixedBytes size => fixedBytes word size
  | array elems, .array elem => array (normalForms elems (List.replicate elems.length elem))
  | fixedArray elems, .fixedArray elem _ =>
    fixedArray (normalForms elems (List.replicate elems.length elem))
  | tuple values, .tuple types => tuple (normalForms values types)
  | tuple values, .struct name types
  | struct _ values, .struct name types => struct name (normalForms values types)
  | v, _ => v

def normalForms : List AbiValue → List AbiType → List AbiValue
  | v :: vs, t :: ts => v.normalForm t :: normalForms vs ts
  | _, _ => []

end

lemma normalForms_replicate (vs : List AbiValue) (t : AbiType) :
    normalForms vs (List.replicate vs.length t) = vs.map (·.normalForm t) := by
  induction vs with
  | nil => simp [normalForms]
  | cons v vs ih => rw [List.length_cons, List.replicate_succ, normalForms, ih, List.map_cons]

lemma length_normalForms {vs : List AbiValue} {ts : List AbiType} (h : HaveTypes vs ts) :
    (normalForms vs ts).length = vs.length := by
  induction vs generalizing ts with
  | nil => rfl
  | cons v vs ih =>
    cases h with
    | cons _ hs => rw [normalForms, List.length_cons, List.length_cons, ih hs]

mutual

lemma hasWidth_normalForm {v : AbiValue} {t : AbiType} (h : HasType v t) :
    (v.normalForm t).ForLeaves HasWidth t := by
  match h with
  | .address _ | .bool _ | .bytes _ | .string _ => simp [normalForm, ForLeaves, HasWidth]
  | .uint _ _ | .int _ _ | .fixedBytes _ _ => simp [normalForm, ForLeaves, HasWidth]
  | .array h | .fixedArray _ h =>
    rw [normalForm, ForLeaves, length_normalForms h]
    exact hasWidth_normalForms h
  | .tuple h | .tupleAsStruct _ h | .struct _ _ h =>
    rw [normalForm, ForLeaves]
    exact hasWidth_normalForms h

lemma hasWidth_normalForms {vs : List AbiValue} {ts : List AbiType} (h : HaveTypes vs ts) :
    ForAllLeaves HasWidth (normalForms vs ts) ts := by
  match h with
  | .nil => simp [normalForms, ForAllLeaves]
  | .cons h hs =>
    rw [normalForms, ForAllLeaves]
    exact ⟨hasWidth_normalForm h, hasWidth_normalForms hs⟩

end

mutual

/-- Normal forms have the types of the values. -/
lemma hasType_normalForm {v : AbiValue} {t : AbiType} (h : HasType v t) :
    HasType (v.normalForm t) t := by
  match h with
  | .address a => exact .address a
  | .bool b => exact .bool b
  | .bytes data => exact .bytes data
  | .string text => exact .string text
  | @HasType.uint value bits _ h => exact .uint bits h
  | @HasType.int value bits _ h => exact .int bits h
  | @HasType.fixedBytes word _ size _ => exact .fixedBytes word le_rfl
  | .array h =>
    rw [normalForm]
    refine .array ?_
    rw [length_normalForms h]
    exact haveTypes_normalForms h
  | .fixedArray hlen h =>
    rw [normalForm]
    refine .fixedArray ((length_normalForms h).trans hlen) ?_
    rw [length_normalForms h]
    exact haveTypes_normalForms h
  | .tuple h => exact .tuple (haveTypes_normalForms h)
  | .tupleAsStruct name h => exact .struct name name (haveTypes_normalForms h)
  | .struct _ name h => exact .struct name name (haveTypes_normalForms h)

lemma haveTypes_normalForms {vs : List AbiValue} {ts : List AbiType} (h : HaveTypes vs ts) :
    HaveTypes (normalForms vs ts) ts := by
  match h with
  | .nil => exact .nil
  | .cons h hs => exact .cons (hasType_normalForm h) (haveTypes_normalForms hs)

end

end ContractCalls.AbiValue

namespace ContractCalls.Abi

open AbiValue

mutual

/-- What the normal form changes is not encoded. -/
lemma encodeValue_normalForm {v : AbiValue} {t : AbiType} (h : HasType v t) :
    encodeValue (v.normalForm t) t = encodeValue v t := by
  match h with
  | .address _ | .bool _ | .bytes _ | .string _ => rfl
  | .uint _ _ | .int _ _ | .fixedBytes _ _ => rw [normalForm, encodeValue, encodeValue]
  | .array h =>
    rw [normalForm, encodeValue, encodeValue, elemFields_eq, elemFields_eq, length_normalForms h,
      fields_normalForms h]
  | .fixedArray _ h =>
    rw [normalForm, encodeValue, encodeValue, elemFields_eq, elemFields_eq, length_normalForms h,
      fields_normalForms h]
  | .tuple h | .tupleAsStruct _ h | .struct _ _ h =>
    rw [normalForm, encodeValue, encodeValue, fields_normalForms h]

lemma fields_normalForms {vs : List AbiValue} {ts : List AbiType} (h : HaveTypes vs ts) :
    fields (normalForms vs ts) ts = fields vs ts := by
  match h with
  | .nil => rfl
  | .cons h hs => rw [normalForms, fields, fields, encodeValue_normalForm h, fields_normalForms hs]

end

end ContractCalls.Abi
