import ContractCalls.Proofs.Abi.Bounds
import ContractCalls.Proofs.Abi.Reencoding

/-!
# How much is decoded

What is built from data is bounded by the data where it varies, and by the types where it does not.
Neither the lengths and counts that the data announce nor the lengths of fixed arrays are trusted,
also where elements take no bytes and any number of them could be read.
-/

namespace ContractCalls.AbiValue

mutual

/-- The value has the shape of the type: all tuples and structs within it have as many fields as
their types, and all fixed arrays have as many elements. -/
def HasShape : AbiValue → AbiType → Prop
  | address _, .address | bool _, .bool | uint _ _, .uint _ | int _ _, .int _
  | fixedBytes _ _, .fixedBytes _
  | bytes _, .bytes | string _, .string => True
  | array elems, .array elem => HaveShapes elems (List.replicate elems.length elem)
  | fixedArray elems, .fixedArray elem length =>
    elems.length = length.toNat ∧ HaveShapes elems (List.replicate elems.length elem)
  | tuple values, .tuple types
  | struct _ values, .struct _ types => values.length = types.length ∧ HaveShapes values types
  | _, _ => False

/-- The values have the shapes of the types at their places. -/
def HaveShapes : List AbiValue → List AbiType → Prop
  | v :: vs, t :: ts => HasShape v t ∧ HaveShapes vs ts
  | _, _ => True

end

mutual

/-- A tuple that may stand for a struct is one in its normal form. -/
lemma hasShape_normalForm {v : AbiValue} {t : AbiType} (h : HasType v t) :
    (v.normalForm t).HasShape t := by
  match h with
  | .address _ | .bool _ | .bytes _ | .string _ | .uint _ _ | .int _ _ | .fixedBytes _ _ =>
    simp [normalForm, HasShape]
  | .array h =>
    rw [normalForm, HasShape, length_normalForms h]
    exact haveShapes_normalForms h
  | .fixedArray hlen h =>
    rw [normalForm, HasShape, length_normalForms h]
    exact ⟨hlen, haveShapes_normalForms h⟩
  | .tuple h | .tupleAsStruct _ h | .struct _ _ h =>
    rw [normalForm, HasShape, length_normalForms h]
    exact ⟨h.length_eq, haveShapes_normalForms h⟩

lemma haveShapes_normalForms {vs : List AbiValue} {ts : List AbiType} (h : HaveTypes vs ts) :
    HaveShapes (normalForms vs ts) ts := by
  match h with
  | .nil => simp [normalForms, HaveShapes]
  | .cons h hs =>
    rw [normalForms, HaveShapes]
    exact ⟨hasShape_normalForm h, haveShapes_normalForms hs⟩

end

end ContractCalls.AbiValue

namespace ContractCalls.Abi

open AbiValue

/-- Whatever the types are, legal or not, decoded values have no array with more elements and no
byte string or text with more bytes than there are bytes of data, and they have just the fields that
the types say. -/
theorem decode_bounded {data : Bytes} {types : List AbiType} {values : List AbiValue}
    (h : decode data types = .ok values) :
    AreWithin data.length values ∧ values.length = types.length ∧ HaveShapes values types := by
  have hnormal := areNormal_of_decode h
  refine ⟨areWithin_of_decode h, hnormal.haveTypes.length_eq, ?_⟩
  rw [← hnormal.normalForms_eq]
  exact haveShapes_normalForms hnormal.haveTypes

/-- Elements that take no bytes, as many of them as there are bytes from the count on. -/
theorem decode_bounded_empty_elements :
    let types : List AbiType := [.fixedArray (.struct "Nothing" []) 3, .array (.tuple [])]
    let data : Bytes := Bytes.ofNat 32 32 ++ Bytes.ofNat 32 32
    let values : List AbiValue :=
      [.fixedArray (List.replicate 3 (.struct "Nothing" [])),
        .array (List.replicate 32 (.tuple []))]
    decode data types = .ok values ∧ AreWithin 64 values ∧ HaveShapes values types := by
  intro types data values
  have h : decode data types = .ok values := by
    simp only [decode, types, data]
    rfl
  obtain ⟨hwithin, -, hshapes⟩ := decode_bounded h
  exact ⟨h, hwithin, hshapes⟩

end ContractCalls.Abi
