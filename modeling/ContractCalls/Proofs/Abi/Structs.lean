import ContractCalls.Proofs.Abi.Reencoding
import ContractCalls.Revert.Registry

/-!
# Structs are tuples

The name of a struct says nothing about its layout. With the names erased, which leaves tuples in
the place of structs, values have the same encoding, data have the same reading, and signatures have
the same text.
-/

namespace ContractCalls

/-! ### Erasing names -/

namespace AbiType

mutual

/-- The type with the tuple of its fields in the place of every struct. -/
def eraseNames : AbiType → AbiType
  | array elem => array elem.eraseNames
  | fixedArray elem length => fixedArray elem.eraseNames length
  | tuple fields | struct _ fields => tuple (eraseAllNames fields)
  | t => t

def eraseAllNames : List AbiType → List AbiType
  | [] => []
  | t :: ts => t.eraseNames :: eraseAllNames ts

end

lemma eraseAllNames_eq_map (ts : List AbiType) : eraseAllNames ts = ts.map eraseNames := by
  induction ts with
  | nil => rfl
  | cons t ts ih => rw [eraseAllNames, ih, List.map_cons]

/-- Types with a name of their own. -/
def IsElementary : AbiType → Prop
  | array _ | fixedArray _ _ | tuple _ | struct _ _ => False
  | _ => True

lemma eraseAllNames_replicate (n : Nat) (t : AbiType) :
    eraseAllNames (List.replicate n t) = List.replicate n t.eraseNames := by
  rw [eraseAllNames_eq_map, List.map_replicate]

end AbiType

namespace AbiValue

mutual

/-- The value with the tuple of its fields in the place of every struct. -/
def eraseNames : AbiValue → AbiValue
  | array elems => array (eraseAllNames elems)
  | fixedArray elems => fixedArray (eraseAllNames elems)
  | tuple fields | struct _ fields => tuple (eraseAllNames fields)
  | v => v

def eraseAllNames : List AbiValue → List AbiValue
  | [] => []
  | v :: vs => v.eraseNames :: eraseAllNames vs

end

lemma eraseAllNames_eq_map (vs : List AbiValue) : eraseAllNames vs = vs.map eraseNames := by
  induction vs with
  | nil => rfl
  | cons v vs ih => rw [eraseAllNames, ih, List.map_cons]

lemma length_eraseAllNames (vs : List AbiValue) : (eraseAllNames vs).length = vs.length := by
  rw [eraseAllNames_eq_map, List.length_map]

end AbiValue

/-! ### Layout and text of types -/

namespace AbiType

mutual

@[simp]
lemma isDynamic_eraseNames (t : AbiType) : t.eraseNames.isDynamic = t.isDynamic := by
  match t with
  | address | bool | uint _ | int _ | fixedBytes _ | bytes | string => rfl
  | array elem => rfl
  | fixedArray elem length => rw [eraseNames, isDynamic, isDynamic, isDynamic_eraseNames elem]
  | tuple fields
  | struct _ fields => rw [eraseNames, isDynamic, isDynamic, anyDynamic_eraseAllNames fields]

lemma anyDynamic_eraseAllNames (ts : List AbiType) :
    anyDynamic (eraseAllNames ts) = anyDynamic ts := by
  match ts with
  | [] => rfl
  | t :: ts =>
    rw [eraseAllNames, anyDynamic, anyDynamic, isDynamic_eraseNames t, anyDynamic_eraseAllNames ts]

end

mutual

lemma headSize?_eraseNames (t : AbiType) : t.eraseNames.headSize? = t.headSize? := by
  match t with
  | address | bool | uint _ | int _ | fixedBytes _ | bytes | string => rfl
  | array elem => rfl
  | fixedArray elem length =>
    rw [eraseNames, headSize?, headSize?, isDynamic_eraseNames, headSize?_eraseNames elem]
  | tuple fields | struct _ fields =>
    rw [eraseNames, headSize?, headSize?, anyDynamic_eraseAllNames,
      inlineSize?_eraseAllNames fields]

lemma inlineSize?_eraseAllNames (ts : List AbiType) :
    inlineSize? (eraseAllNames ts) = inlineSize? ts := by
  match ts with
  | [] => rfl
  | t :: ts =>
    rw [eraseAllNames, inlineSize?, inlineSize?, headSize?_eraseNames t,
      inlineSize?_eraseAllNames ts]

end

@[simp]
lemma headSize_eraseNames (t : AbiType) : t.eraseNames.headSize = t.headSize := by
  rw [headSize, headSize?_eraseNames, headSize]

mutual

lemma text_eraseNames (t : AbiType) : t.eraseNames.text = t.text := by
  match t with
  | address | bool | uint _ | int _ | fixedBytes _ | bytes | string => rfl
  | array elem => rw [eraseNames, text, text, text_eraseNames elem]
  | fixedArray elem length => rw [eraseNames, text, text, text_eraseNames elem]
  | tuple fields | struct _ fields => rw [eraseNames, text, text, listText_eraseAllNames fields]

lemma listText_eraseAllNames (ts : List AbiType) : listText (eraseAllNames ts) = listText ts := by
  match ts with
  | [] => rfl
  | [t] => rw [eraseAllNames, eraseAllNames, listText, listText, text_eraseNames t]
  | t :: u :: ts =>
    rw [eraseAllNames, eraseAllNames, listText, listText, text_eraseNames t, ← eraseAllNames,
      listText_eraseAllNames (u :: ts)]

end

mutual

lemma checkWidths_eraseNames (t : AbiType) : t.eraseNames.checkWidths = t.checkWidths := by
  match t with
  | address | bool | uint _ | int _ | fixedBytes _ | bytes | string => rfl
  | array elem => rw [eraseNames, checkWidths, checkWidths, checkWidths_eraseNames elem]
  | fixedArray elem length => rw [eraseNames, checkWidths, checkWidths, checkWidths_eraseNames elem]
  | tuple fields | struct _ fields =>
    rw [eraseNames, checkWidths, checkWidths, checkAllWidths_eraseAllNames fields]

lemma checkAllWidths_eraseAllNames (ts : List AbiType) :
    checkAllWidths (eraseAllNames ts) = checkAllWidths ts := by
  match ts with
  | [] => rfl
  | t :: ts =>
    rw [eraseAllNames, checkAllWidths, checkAllWidths, checkWidths_eraseNames t,
      checkAllWidths_eraseAllNames ts]

end

lemma validate_eraseNames (t : AbiType) : t.eraseNames.validate = t.validate := by
  rw [validate, checkWidths_eraseNames, headSize?_eraseNames, text_eraseNames, validate]

end AbiType

namespace Signature

/-- The canonical signature does not tell structs from tuples. -/
lemma canonical_eraseNames (name : String) (inputs : List AbiType) :
    canonical name (inputs.map AbiType.eraseNames) = canonical name inputs := by
  rw [canonical, ← AbiType.eraseAllNames_eq_map, AbiType.listText_eraseAllNames, canonical]

end Signature

/-- The function over types without the names of structs. -/
def AbiFunction.eraseNames (f : AbiFunction) : AbiFunction :=
  { f with inputs := f.inputs.map AbiType.eraseNames, outputs := f.outputs.map AbiType.eraseNames }

lemma AbiFunction.signature_eraseNames (f : AbiFunction) : f.eraseNames.signature = f.signature :=
  Signature.canonical_eraseNames f.name f.inputs

/-! ### Encoding -/

mutual

/-- A tuple may stand for whatever a struct may stand for, once the types have no names either. -/
lemma HasType.eraseNames {v : AbiValue} {t : AbiType} (h : HasType v t) :
    HasType v.eraseNames t.eraseNames := by
  match h with
  | .address account => exact .address account
  | .bool flag => exact .bool flag
  | .uint width h => exact .uint width h
  | .int width h => exact .int width h
  | .fixedBytes word h => exact .fixedBytes word h
  | .bytes data => exact .bytes data
  | .string text => exact .string text
  | .array h =>
    refine .array ?_
    rw [AbiValue.length_eraseAllNames, ← AbiType.eraseAllNames_replicate]
    exact h.eraseAllNames
  | .fixedArray hlen h =>
    refine .fixedArray ((AbiValue.length_eraseAllNames _).trans hlen) ?_
    rw [AbiValue.length_eraseAllNames, ← AbiType.eraseAllNames_replicate]
    exact h.eraseAllNames
  | .tuple h | .tupleAsStruct _ h | .struct _ _ h => exact .tuple h.eraseAllNames

lemma HaveTypes.eraseAllNames {vs : List AbiValue} {ts : List AbiType} (h : HaveTypes vs ts) :
    HaveTypes (AbiValue.eraseAllNames vs) (AbiType.eraseAllNames ts) := by
  match h with
  | .nil => exact .nil
  | .cons h hs => exact .cons h.eraseNames hs.eraseAllNames

end

namespace Abi

open AbiValue

mutual

/-- The encoding of a value of a type has no names. -/
lemma encodeValue_eraseNames {v : AbiValue} {t : AbiType} (h : HasType v t) :
    encodeValue v.eraseNames t.eraseNames = encodeValue v t := by
  match h with
  | .address _ | .bool _ | .uint _ _ | .int _ _ | .fixedBytes _ _ | .bytes _ | .string _ =>
    rw [AbiValue.eraseNames, encodeValue, encodeValue] <;> simp
  | .array h | .fixedArray _ h =>
    rw [AbiValue.eraseNames, AbiType.eraseNames, encodeValue, encodeValue, elemFields_eq,
      elemFields_eq, AbiValue.length_eraseAllNames, ← AbiType.eraseAllNames_replicate,
      fields_eraseAllNames h]
  | .tuple h | .tupleAsStruct _ h | .struct _ _ h =>
    rw [AbiValue.eraseNames, AbiType.eraseNames, encodeValue, encodeValue, fields_eraseAllNames h]

lemma fields_eraseAllNames {vs : List AbiValue} {ts : List AbiType} (h : HaveTypes vs ts) :
    fields (AbiValue.eraseAllNames vs) (AbiType.eraseAllNames ts) = fields vs ts := by
  match h with
  | .nil => rfl
  | .cons h hs =>
    rw [AbiValue.eraseAllNames, AbiType.eraseAllNames, fields, fields, AbiType.isDynamic_eraseNames,
      AbiType.headSize_eraseNames, encodeValue_eraseNames h, fields_eraseAllNames hs]

end

lemma encode_eraseNames {values : List AbiValue} {types : List AbiType} {data : Bytes}
    (h : encode values types = .ok data) :
    encode (values.map AbiValue.eraseNames) (types.map AbiType.eraseNames) = .ok data := by
  obtain ⟨htyped, hdata⟩ := encode_eq_ok_iff.mp h
  rw [← AbiValue.eraseAllNames_eq_map, ← AbiType.eraseAllNames_eq_map, encode_eq_ok_iff,
    fields_eraseAllNames htyped]
  exact ⟨htyped.eraseAllNames, hdata⟩

/-! ### Decoding -/

/-- Values of elementary types have no names. -/
lemma eraseNames_of_isElementary {v : AbiValue} {t : AbiType} (h : HasType v t)
    (ht : t.IsElementary) : v.eraseNames = v := by
  cases h
  all_goals first | rfl | cases ht

section

variable {α β : Type}

/-- The reader of a field that is changed after it was read. -/
def FieldReader.map (g : α → β) (f : FieldReader α) : FieldReader β :=
  { f with read := fun data => g <$> f.read data }

lemma FieldReader.readAt_map (g : α → β) (f : FieldReader α) (data : Bytes) (head : Nat) :
    (f.map g).readAt data head = g <$> f.readAt data head := by
  simp only [readAt, map, apply_ite (g <$> ·), map_bind]
  rfl

lemma readFields_map (g : α → β) (fs : List (FieldReader α)) (data : Bytes) (head : Nat) :
    readFields (fs.map (FieldReader.map g)) data head = List.map g <$> readFields fs data head := by
  induction fs generalizing head with
  | nil => rfl
  | cons f fs ih =>
    have hrest := ih (Size.saturate (head + f.headSize))
    simp only [List.map_cons, readFields, FieldReader.readAt_map, map_bind, bind_map_left, map_pure]
    refine congrArg _ (funext fun value => ?_)
    rw [FieldReader.map, hrest, bind_map_left]

lemma readFields_replicate_map (g : α → β) (count : Nat) (dynamic : Bool) (size : Nat)
    (read : Bytes → Except AbiError α) (data : Bytes) (head : Nat) :
    readFields (List.replicate count ⟨dynamic, size, fun data => g <$> read data⟩) data head =
      List.map g <$> readFields (List.replicate count ⟨dynamic, size, read⟩) data head := by
  rw [← readFields_map, List.map_replicate, FieldReader.map]

end

mutual

/-- What is read without names is what is read with them, and then freed of them. -/
lemma decodeValue_eraseNames (t : AbiType) (data : Bytes) :
    decodeValue t.eraseNames data = AbiValue.eraseNames <$> decodeValue t data := by
  match t with
  | .address | .bool | .uint _ | .int _ | .fixedBytes _ | .bytes | .string =>
    refine (Except.map_eq_self fun w hw => ?_).symm
    have htyped := (isNormal_of_decodeValue _ data w hw).hasType
    exact eraseNames_of_isElementary htyped trivial
  | .array elem | .fixedArray elem _ =>
    simp only [AbiType.eraseNames, decodeValue, AbiType.headSize_eraseNames,
      AbiType.isDynamic_eraseNames, funext (decodeValue_eraseNames elem), readFields_replicate_map,
      map_bind, bind_map_left, map_pure, apply_ite (AbiValue.eraseNames <$> ·), AbiValue.eraseNames,
      AbiValue.eraseAllNames_eq_map]
  | .tuple types | .struct _ types =>
    rw [AbiType.eraseNames, decodeValue, decodeValue, readers_eraseAllNames, readFields_map,
      bind_map_left, map_bind]
    simp only [map_pure, AbiValue.eraseNames, AbiValue.eraseAllNames_eq_map]

lemma readers_eraseAllNames (ts : List AbiType) :
    readers (AbiType.eraseAllNames ts) =
      (readers ts).map (FieldReader.map AbiValue.eraseNames) := by
  match ts with
  | [] => rfl
  | t :: ts =>
    rw [AbiType.eraseAllNames, readers, readers, List.map_cons, AbiType.isDynamic_eraseNames,
      AbiType.headSize_eraseNames, readers_eraseAllNames ts,
      funext (decodeValue_eraseNames t), FieldReader.map]

end

lemma decode_eraseNames (data : Bytes) (types : List AbiType) :
    decode data (types.map AbiType.eraseNames) =
      (decode data types).map (List.map AbiValue.eraseNames) := by
  rw [← AbiType.eraseAllNames_eq_map, decode, readers_eraseAllNames, readFields_map, decode]
  rfl

/-- Without the names of structs, values that could be encoded have the same encoding, any data are
read as the same values without names or refused with the same error, and functions and custom
errors have the same signature and selector. -/
theorem encode_decode_eraseNames :
    (∀ values types data, encode values types = .ok data →
      encode (values.map AbiValue.eraseNames) (types.map AbiType.eraseNames) = .ok data) ∧
    (∀ data types, decode data (types.map AbiType.eraseNames) =
      (decode data types).map (List.map AbiValue.eraseNames)) ∧
    (∀ f : AbiFunction, f.eraseNames.signature = f.signature ∧ f.eraseNames.selector = f.selector) ∧
    ∀ (name : String) (inputs : List AbiType),
      Signature.canonical name (inputs.map AbiType.eraseNames) = Signature.canonical name inputs ∧
      ({ name, inputs := inputs.map AbiType.eraseNames } : ErrorDefinition).selector =
        ({ name, inputs } : ErrorDefinition).selector := by
  refine ⟨fun values types data => encode_eraseNames, decode_eraseNames, ?functions, ?errors⟩
  case functions =>
    intro f
    have hsignature := f.signature_eraseNames
    exact ⟨hsignature, congrArg Selector.ofText hsignature⟩
  case errors =>
    intro name inputs
    have hsignature := Signature.canonical_eraseNames name inputs
    exact ⟨hsignature, congrArg Selector.ofText hsignature⟩

/-- Structs in an array, one of them given as a tuple. -/
theorem encode_decode_eraseNames_nested :
    let types : List AbiType := [.array (.struct "Note" [.uint 8, .struct "Text" [.string]])]
    let plain : List AbiType := [.array (.tuple [.uint 8, .tuple [.string]])]
    let values : List AbiValue :=
      [.array [.struct "Memo" [.uint 7 8, .tuple [.string "a"]],
        .tuple [.uint 8 16, .struct "" [.string "b"]]]]
    ∃ data, encode values types = .ok data ∧
      encode (values.map AbiValue.eraseNames) plain = .ok data ∧
      decode data plain = .ok [.array
        [.tuple [.uint 7 8, .tuple [.string "a"]], .tuple [.uint 8 8, .tuple [.string "b"]]]] := by
  intro types plain values
  have hts : ∀ t ∈ types, t.IsWellFormed := by decide +kernel
  have hvalues : HaveTypes values types := checkTypes_eq_ok_iff.mp (by decide +kernel)
  have hpadded : ForAllLeaves IsPadded values types := by
    simp only [types, values, ForAllLeaves, ForLeaves, IsPadded, List.length_cons, List.length_nil,
      List.replicate, and_self]
  have hdata := encode_eq_ok_iff.mpr ⟨hvalues, rfl⟩
  have hread := (decode_layOut_iff hvalues hts (by decide +kernel) _).mpr ⟨hpadded, rfl⟩
  obtain ⟨hencode, hdecode, -⟩ := encode_decode_eraseNames
  refine ⟨_, hdata, hencode values types _ hdata, (hdecode _ types).trans ?_⟩
  rw [hread]
  rfl

end Abi

end ContractCalls
