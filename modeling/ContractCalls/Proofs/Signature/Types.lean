import ContractCalls.Proofs.Abi.Structs
import ContractCalls.Proofs.Abi.Validation
import ContractCalls.Proofs.Signature.Grammar

/-!
# Canonical types

The canonical text of a legal type is read as the type, with tuples in the place of structs, unless
it nests too deep for the grammar or has fixed arrays without elements. Every type that can be read
is among these.
-/

namespace ContractCalls

open Signature

namespace Signature

/-! ### Array brackets -/

/-- A type as the element of an array, or of a fixed array of a size. -/
def withSize (type : AbiType) (size : Option UInt64) : AbiType :=
  size.elim (.array type) (.fixedArray type)

/-- The type with one more pair of brackets behind it. -/
def TypeSpec.addSize (size : Option UInt64) : TypeSpec → TypeSpec
  | root name sizes => root name (sizes ++ [size])
  | tuple components sizes => tuple components (sizes ++ [size])

lemma ArePositive.concat {sizes : List (Option UInt64)} (h : ArePositive sizes)
    {size : Option UInt64} (hsize : size ≠ some 0) : ArePositive (sizes ++ [size]) :=
  List.forall_mem_append.mpr ⟨h, List.forall_mem_singleton.mpr hsize⟩

lemma Fits.addSize {hasEmpty : Bool} {depth : Nat} {spec : TypeSpec} (h : Fits hasEmpty depth spec)
    {size : Option UInt64} (hsize : size ≠ some 0) : Fits hasEmpty depth (spec.addSize size) := by
  cases h with
  | root hname hsizes => exact .root hname (hsizes.concat hsize)
  | empty hempty hsizes => exact .empty hempty (hsizes.concat hsize)
  | tuple hne hcomponents hsizes => exact .tuple hne hcomponents (hsizes.concat hsize)

lemma toList_sizesText_concat (sizes : List (Option UInt64)) (size : Option UInt64) :
    (TypeSpec.sizesText (sizes ++ [size])).toList =
      (TypeSpec.sizesText sizes).toList ++ '[' :: (sizeDigits size ++ [']']) := by
  induction sizes with
  | nil =>
    rw [List.nil_append, toList_sizesText_cons]
    rfl
  | cons first sizes ih =>
    rw [List.cons_append, toList_sizesText_cons, toList_sizesText_cons, ih]
    simp

lemma written_addSize (spec : TypeSpec) (size : Option UInt64) :
    (spec.addSize size).written = spec.written ++ '[' :: (sizeDigits size ++ [']']) := by
  cases spec <;> simp [TypeSpec.addSize, TypeSpec.written, toList_sizesText_concat]

lemma withSizes_concat (type : AbiType) (sizes : List (Option UInt64)) (size : Option UInt64) :
    withSizes type (sizes ++ [size]) = withSize (withSizes type sizes) size :=
  List.foldl_concat ..

lemma resolve_addSize (spec : TypeSpec) (size : Option UInt64) :
    (spec.addSize size).resolve = Option.map (withSize · size) <$> spec.resolve := by
  cases spec <;>
    simp only [TypeSpec.addSize, TypeSpec.resolve, withSizes_concat, map_bind, map_pure,
      Option.map_map, Function.comp_def]

/-! ### Elementary names -/

/-- A word with a number behind it. -/
def numbered (word : String) (n : Nat) : String :=
  s!"{word}{n}"

@[simp]
lemma toList_numbered (word : String) (n : Nat) :
    (numbered word n).toList = word.toList ++ Nat.toDigits 10 n := by
  simp [numbered]

lemma numbered_ne (word : String) (n : Nat) {literal : String}
    (h : literal.toList.any Char.isDigit = false) : numbered word n ≠ literal := by
  rintro rfl
  obtain ⟨c, hc⟩ := List.exists_mem_of_ne_nil _ (Nat.toDigits_ne_nil (n := n) (b := 10))
  have hmem : c ∈ (numbered word n).toList := toList_numbered word n ▸ List.mem_append_right _ hc
  exact List.any_eq_false.mp h c hmem (isDigit_of_mem_toDigits hc)

lemma isRootName_numbered {word : String} (hword : IsName word) (n : Nat) :
    IsRootName (numbered word n) where
  isNameStart := by
    obtain ⟨c, cs, hchars, hstart⟩ := hword.exists_toList
    simpa [hchars] using hstart
  isNameRest := by
    rw [toList_numbered, List.forall_mem_append]
    refine ⟨hword.isNameRest, fun c hc => ?_⟩
    rw [isNameRest, isDigit_of_mem_toDigits hc, Bool.or_true]
  ne_uint := numbered_ne word n (by decide +kernel)
  ne_int := numbered_ne word n (by decide +kernel)

/-- A name with a number behind it is none of the types without one. -/
lemma rootType_numbered (word : String) (n : Nat) :
    rootType (numbered word n) =
      match word? "bytes" (numbered word n).toList, word? "uint" (numbered word n).toList,
        word? "int" (numbered word n).toList with
      | some digits, _, _ => sized (numbered word n) digits (fun n => n != 0 && n ≤ 32) .fixedBytes
      | _, some digits, _ => sized (numbered word n) digits AbiType.isIntegerWidth .uint
      | _, _, some digits => sized (numbered word n) digits AbiType.isIntegerWidth .int
      | _, _, _ => .error (.unknown (numbered word n)) := by
  -- The literals that `rootType` compares with have no digits.
  rw [rootType.eq_def]
  split
  all_goals first | rfl | exact absurd ‹_› (numbered_ne word n (by decide +kernel))

lemma sized_toDigits {name : String} {n : Nat} {isLegal : Nat → Bool} (hlegal : isLegal n = true)
    (hn : n ≤ 256) (type : Nat → AbiType) :
    sized name (Nat.toDigits 10 n) isLegal type = .ok (some (type n)) := by
  rw [sized, decimal?_toDigits (hn.trans_lt (by decide))]
  exact if_pos hlegal

lemma le_of_isIntegerWidth {bits : Nat} (h : AbiType.isIntegerWidth bits = true) : bits ≤ 256 := by
  simp only [AbiType.isIntegerWidth, Bool.and_eq_true, decide_eq_true_eq] at h
  exact h.1.2

end Signature

namespace AbiType

lemma isRootName_text {t : AbiType} (h : t.IsElementary) : IsRootName t.text := by
  match t with
  | address | bool | bytes | string => decide +kernel
  | uint bits | int bits | fixedBytes size => exact isRootName_numbered (by decide +kernel) _

lemma rootType_text {t : AbiType} (h : t.IsElementary) (hwidth : t.HasLegalWidth) :
    rootType t.text = .ok (some t) := by
  match t with
  | address | bool | bytes | string => rfl
  | uint bits =>
    have hbytes : word? "bytes" ("uint".toList ++ Nat.toDigits 10 bits) = none := rfl
    refine (rootType_numbered "uint" bits).trans ?_
    rw [toList_numbered, hbytes, word?_eq_some_iff.mpr rfl]
    exact sized_toDigits hwidth (le_of_isIntegerWidth hwidth) uint
  | int bits =>
    have hbytes : word? "bytes" ("int".toList ++ Nat.toDigits 10 bits) = none := rfl
    have huint : word? "uint" ("int".toList ++ Nat.toDigits 10 bits) = none := rfl
    refine (rootType_numbered "int" bits).trans ?_
    rw [toList_numbered, hbytes, huint, word?_eq_some_iff.mpr rfl]
    exact sized_toDigits hwidth (le_of_isIntegerWidth hwidth) int
  | fixedBytes size =>
    obtain ⟨hne, hle⟩ := hwidth
    refine (rootType_numbered "bytes" size).trans ?_
    rw [toList_numbered, word?_eq_some_iff.mpr rfl]
    exact sized_toDigits (by simp [hne, hle]) (hle.trans (by decide)) fixedBytes

lemma isElementary_of_sized {name : String} {digits : List Char} {isLegal : Nat → Bool}
    (type : Nat → AbiType) (htype : ∀ n, (type n).IsElementary) {t : AbiType}
    (h : sized name digits isLegal type = .ok (some t)) : t.IsElementary := by
  rw [sized] at h
  split at h
  · split at h
    · obtain rfl := Option.some.inj (Except.ok.inj h)
      exact htype _
    · cases h
  · cases h

lemma isElementary_of_rootType {name : String} {t : AbiType} (h : rootType name = .ok (some t)) :
    t.IsElementary := by
  rw [rootType.eq_def] at h
  split at h
  case h_6 =>
    split at h
    · exact isElementary_of_sized fixedBytes (fun _ => trivial) h
    · exact isElementary_of_sized uint (fun _ => trivial) h
    · exact isElementary_of_sized int (fun _ => trivial) h
    · cases h
  all_goals
    cases h <;> trivial

/-! ### The specification of the canonical text -/

mutual

/-- How the canonical text writes a type. -/
def spec : AbiType → TypeSpec
  | array elem => elem.spec.addSize none
  | fixedArray elem length => elem.spec.addSize (some length)
  | tuple fields | struct _ fields => .tuple (specs fields) []
  | t => .root t.text []

def specs : List AbiType → List TypeSpec
  | [] => []
  | t :: ts => t.spec :: specs ts

end

lemma specs_eq_map (ts : List AbiType) : specs ts = ts.map spec := by
  induction ts with
  | nil => rfl
  | cons t ts ih => rw [specs, ih, List.map_cons]

mutual

lemma toList_text (t : AbiType) : t.text.toList = t.spec.written := by
  match t with
  | address | bool | bytes | string | uint bits | int bits | fixedBytes size =>
    simp [spec, TypeSpec.written, TypeSpec.sizesText]
  | array elem
  | fixedArray elem _ => simp [spec, text, written_addSize, toList_text elem, sizeDigits]
  | tuple fields | struct _ fields =>
    simp [spec, text, TypeSpec.written, toList_listText fields, TypeSpec.sizesText]

lemma toList_listText (ts : List AbiType) :
    (listText ts).toList = TypeSpec.writtenAll (specs ts) := by
  match ts with
  | [] => rfl
  | [t] => rw [listText, toList_text t, specs, specs, TypeSpec.writtenAll]
  | t :: u :: ts =>
    have hmore := toList_listText (u :: ts)
    rw [specs] at hmore
    simp [listText, specs, TypeSpec.writtenAll, toList_text t, hmore]

end

lemma resolve_spec_of_isElementary {t : AbiType} (h : t.IsElementary) (hwidth : t.HasLegalWidth) :
    (TypeSpec.root t.text []).resolve = .ok (some t) := by
  rw [TypeSpec.resolve, rootType_text h hwidth]
  rfl

mutual

/-- With legal widths, the text stands for the type, but for the names of structs. -/
lemma resolve_spec {t : AbiType} (h : ∀ c ∈ t.components, c.HasLegalWidth) :
    t.spec.resolve = .ok (some t.eraseNames) := by
  match t with
  | address | bool | bytes | string | uint bits | int bits | fixedBytes size =>
    exact resolve_spec_of_isElementary trivial (h _ List.mem_cons_self)
  | array elem | fixedArray elem _ =>
    rw [spec, resolve_addSize, resolve_spec (List.forall_mem_cons.mp h).2]
    rfl
  | tuple fields | struct name fields =>
    rw [spec, TypeSpec.resolve, resolveAll_specs (List.forall_mem_cons.mp h).2]
    rfl

lemma resolveAll_specs {ts : List AbiType} (h : ∀ c ∈ allComponents ts, c.HasLegalWidth) :
    TypeSpec.resolveAll (specs ts) = .ok (some (eraseAllNames ts)) := by
  match ts with
  | [] => rfl
  | t :: ts =>
    obtain ⟨ht, hts⟩ := List.forall_mem_append.mp h
    rw [specs, TypeSpec.resolveAll, resolve_spec ht, resolveAll_specs hts]
    rfl

end

/-! ### Types that can be read -/

/-- No struct, and no fixed array without elements. -/
def IsPlain : AbiType → Prop
  | struct _ _ => False
  | fixedArray _ length => length ≠ 0
  | _ => True

/-- The grammar allows the canonical text within a depth, and the type is plain throughout. -/
structure IsReadable (hasEmpty : Bool) (depth : Nat) (t : AbiType) : Prop where
  fits : Fits hasEmpty depth t.spec
  isPlain : ∀ c ∈ t.components, c.IsPlain

namespace IsReadable

variable {hasEmpty : Bool} {depth : Nat}

lemma of_isElementary {t : AbiType} (h : t.IsElementary) : t.IsReadable hasEmpty depth := by
  match t with
  | address | bool | bytes | string | uint bits | int bits | fixedBytes size =>
    exact ⟨.root (isRootName_text h) (List.forall_mem_nil _), List.forall_mem_singleton.mpr trivial⟩

lemma withSize {t : AbiType} (h : t.IsReadable hasEmpty depth) {size : Option UInt64}
    (hsize : size ≠ some 0) : (Signature.withSize t size).IsReadable hasEmpty depth := by
  cases size with
  | none => exact ⟨h.fits.addSize hsize, List.forall_mem_cons.mpr ⟨trivial, h.isPlain⟩⟩
  | some length =>
    have hlength : length ≠ 0 := fun hzero => hsize (congrArg some hzero)
    exact ⟨h.fits.addSize hsize, List.forall_mem_cons.mpr ⟨hlength, h.isPlain⟩⟩

lemma withSizes {t : AbiType} (h : t.IsReadable hasEmpty depth) {sizes : List (Option UInt64)}
    (hsizes : ArePositive sizes) : (Signature.withSizes t sizes).IsReadable hasEmpty depth := by
  induction sizes generalizing t with
  | nil => exact h
  | cons size sizes ih =>
    obtain ⟨hsize, hsizes⟩ := List.forall_mem_cons.mp hsizes
    exact ih (h.withSize hsize) hsizes

lemma isPlain_tuple {fields : List AbiType} (h : ∀ t ∈ fields, t.IsReadable hasEmpty depth) :
    ∀ c ∈ (tuple fields).components, c.IsPlain := by
  refine List.forall_mem_cons.mpr ⟨trivial, fun c hc => ?_⟩
  obtain ⟨t, ht, hc⟩ := exists_of_mem_allComponents hc
  exact (h t ht).isPlain c hc

lemma empty (hempty : hasEmpty = true) : (tuple []).IsReadable hasEmpty depth :=
  ⟨.empty hempty (List.forall_mem_nil _), List.forall_mem_singleton.mpr trivial⟩

lemma tuple {fields : List AbiType} (hne : fields ≠ [])
    (h : ∀ t ∈ fields, t.IsReadable hasEmpty depth) :
    (tuple fields).IsReadable hasEmpty (depth + 1) := by
  refine ⟨?_, isPlain_tuple h⟩
  rw [spec, specs_eq_map]
  refine .tuple (mt List.map_eq_nil_iff.mp hne) ?_ (List.forall_mem_nil _)
  exact List.forall_mem_map.mpr fun t ht => (h t ht).fits

end IsReadable

/-- The types of a list that is read are the types of its texts. -/
lemma forall₂_of_resolveAll {specs : List TypeSpec} {types : List AbiType}
    (h : TypeSpec.resolveAll specs = .ok (some types)) :
    List.Forall₂ (fun spec type => spec.resolve = .ok (some type)) specs types := by
  induction specs generalizing types with
  | nil =>
    obtain rfl := Option.some.inj (Except.ok.inj h)
    exact .nil
  | cons spec specs ih =>
    obtain ⟨type?, htype, h⟩ := Except.bind_eq_ok_iff.mp h
    obtain ⟨types?, htypes, h⟩ := Except.bind_eq_ok_iff.mp h
    obtain ⟨type, rfl, hmore⟩ := Option.bind_eq_some_iff.mp (Except.ok.inj h)
    obtain ⟨types, rfl, rfl⟩ := Option.map_eq_some_iff.mp hmore
    exact .cons htype (ih htypes)

/-- Only such types are read. -/
lemma isReadable_of_resolve {hasEmpty : Bool} {depth : Nat} {spec : TypeSpec}
    (hspec : Fits hasEmpty depth spec) {t : AbiType} (h : spec.resolve = .ok (some t)) :
    t.IsReadable hasEmpty depth := by
  -- On how the text was read: the brackets behind a type are those of its canonical text.
  induction hspec generalizing t with
  | root hname hsizes =>
    obtain ⟨type?, htype, h⟩ := Except.bind_eq_ok_iff.mp h
    obtain ⟨type, rfl, rfl⟩ := Option.map_eq_some_iff.mp (Except.ok.inj h)
    exact (IsReadable.of_isElementary (isElementary_of_rootType htype)).withSizes hsizes
  | empty hempty hsizes =>
    obtain rfl := Option.some.inj (Except.ok.inj h)
    exact (IsReadable.empty hempty).withSizes hsizes
  | @tuple depth components sizes hne _ hsizes ih =>
    obtain ⟨fields?, hfields, h⟩ := Except.bind_eq_ok_iff.mp h
    obtain ⟨fields, rfl, rfl⟩ := Option.map_eq_some_iff.mp (Except.ok.inj h)
    have hforall := forall₂_of_resolveAll hfields
    refine (IsReadable.tuple ?_ ?_).withSizes hsizes
    · rintro rfl
      exact hne (List.forall₂_nil_right_iff.mp hforall)
    · intro t ht
      obtain ⟨c, hc, hresolve⟩ := List.exists_of_forall₂ hforall t ht
      exact ih c hc hresolve

mutual

lemma eraseNames_eq_self {t : AbiType} (h : ∀ c ∈ t.components, c.IsPlain) : t.eraseNames = t := by
  match t with
  | address | bool | bytes | string | uint bits | int bits | fixedBytes size => rfl
  | array elem
  | fixedArray elem _ => rw [eraseNames, eraseNames_eq_self (List.forall_mem_cons.mp h).2]
  | tuple fields => rw [eraseNames, eraseAllNames_eq_self (List.forall_mem_cons.mp h).2]
  | struct name fields => exact absurd (h _ List.mem_cons_self) not_false

lemma eraseAllNames_eq_self {ts : List AbiType} (h : ∀ c ∈ allComponents ts, c.IsPlain) :
    eraseAllNames ts = ts := by
  match ts with
  | [] => rfl
  | t :: ts =>
    obtain ⟨ht, hts⟩ := List.forall_mem_append.mp h
    rw [eraseAllNames, eraseNames_eq_self ht, eraseAllNames_eq_self hts]

end

/-! ### Depth -/

mutual

/-- How deep tuples and structs nest. -/
def nesting : AbiType → Nat
  | array elem | fixedArray elem _ => elem.nesting
  | tuple fields | struct _ fields => maxNesting fields + 1
  | _ => 0

def maxNesting : List AbiType → Nat
  | [] => 0
  | t :: ts => max t.nesting (maxNesting ts)

end

lemma fits_tuple_specs {fields : List AbiType} {depth : Nat}
    (h : ∀ spec ∈ specs fields, Fits true depth spec) :
    Fits true (depth + 1) (.tuple (specs fields) []) := by
  cases fields with
  | nil => exact .empty rfl (List.forall_mem_nil _)
  | cons t ts => exact .tuple (List.cons_ne_nil _ _) h (List.forall_mem_nil _)

mutual

lemma fits_spec {t : AbiType} (hne : ∀ elem, fixedArray elem 0 ∉ t.components) {depth : Nat}
    (hdepth : t.nesting ≤ depth) : Fits true depth t.spec := by
  match t with
  | address | bool | bytes | string | uint bits | int bits | fixedBytes size =>
    exact .root (isRootName_text trivial) (List.forall_mem_nil _)
  | array elem =>
    exact (fits_spec (fun e he => hne e (List.mem_cons_of_mem _ he)) hdepth).addSize nofun
  | fixedArray elem length =>
    refine (fits_spec (fun e he => hne e (List.mem_cons_of_mem _ he)) hdepth).addSize ?_
    rintro ⟨⟩
    exact hne elem List.mem_cons_self
  | tuple fields | struct name fields =>
    obtain ⟨depth, rfl⟩ := Nat.exists_eq_add_of_le' ((Nat.le_add_left 1 _).trans hdepth)
    refine fits_tuple_specs (fits_specs (fun e he => hne e (List.mem_cons_of_mem _ he)) ?_)
    exact Nat.le_of_succ_le_succ hdepth

lemma fits_specs {ts : List AbiType} (hne : ∀ elem, fixedArray elem 0 ∉ allComponents ts)
    {depth : Nat} (hdepth : maxNesting ts ≤ depth) : ∀ spec ∈ specs ts, Fits true depth spec := by
  match ts with
  | [] => exact List.forall_mem_nil _
  | t :: ts =>
    obtain ⟨ht, hts⟩ := max_le_iff.mp hdepth
    exact List.forall_mem_cons.mpr
      ⟨fits_spec (fun e he => hne e (List.mem_append_left _ he)) ht,
        fits_specs (fun e he => hne e (List.mem_append_right _ he)) hts⟩

end

/-! ### Reading canonical text -/

lemma parse_eq_ok_iff {text : String} {t : AbiType} :
    AbiType.parse text = .ok t ↔ ∃ spec, wholeType (Text.trim text.toList) = some spec ∧
      spec.resolve = .ok (some t) ∧ t.validate = .ok () := by
  rw [AbiType.parse]
  split
  · next hread => simp [hread]
  · next spec hread =>
    simp only [hread, Option.some.injEq, exists_eq_left']
    split
    · next err hresolve => simp [hresolve]
    · next hresolve => simp [hresolve]
    · next type hresolve =>
      rw [hresolve, Except.bind_eq_ok_iff, Except.ok.injEq, Option.some.injEq]
      constructor
      · rintro ⟨⟨⟩, hvalidate, ⟨⟩⟩
        exact ⟨rfl, hvalidate⟩
      · rintro ⟨rfl, hvalidate⟩
        exact ⟨(), hvalidate, rfl⟩

lemma parse_text_of_fits {hasEmpty : Bool} {t : AbiType} (h : Fits hasEmpty maxDepth t.spec)
    (hvalidate : t.validate = .ok ()) : AbiType.parse t.text = .ok t.eraseNames := by
  have hwidths := (checkWidths_eq_ok_iff t).mp (validate_eq_ok_iff.mp hvalidate).1
  rw [parse_eq_ok_iff, toList_text]
  exact ⟨t.spec, wholeType_written h, resolve_spec hwidths, t.validate_eraseNames.trans hvalidate⟩

/-- A type with a canonical text that can be read is read from it. -/
lemma IsReadable.parse_text {hasEmpty : Bool} {depth : Nat} {t : AbiType}
    (h : t.IsReadable hasEmpty depth) (hdepth : depth ≤ maxDepth)
    (hvalidate : t.validate = .ok ()) :
    AbiType.parse t.text = .ok t := by
  rw [parse_text_of_fits (h.fits.mono hdepth) hvalidate, eraseNames_eq_self h.isPlain]

lemma isReadable_of_parse {text : String} {t : AbiType} (h : AbiType.parse text = .ok t) :
    t.IsReadable true maxDepth := by
  obtain ⟨spec, hread, hresolve, -⟩ := parse_eq_ok_iff.mp h
  exact isReadable_of_resolve (fits_of_wholeType hread) hresolve

/-- A type that was read from any text is legal, has no structs and no fixed arrays without
elements, and is read again from its canonical text. So is every legal type without such arrays that
does not nest too deep, with tuples in the place of structs. -/
theorem parse_canonical_text :
    (∀ s t, AbiType.parse s = .ok t → AbiType.parse t.text = .ok t ∧ t.validate = .ok () ∧
      (∀ name fields, struct name fields ∉ t.components) ∧
        ∀ elem, fixedArray elem 0 ∉ t.components) ∧
    ∀ t : AbiType, t.validate = .ok () → (∀ elem, fixedArray elem 0 ∉ t.components) →
      t.nesting ≤ 79 →
      AbiType.parse t.text = .ok t.eraseNames := by
  constructor
  · intro s t h
    have hreadable := isReadable_of_parse h
    obtain ⟨-, -, -, hvalidate⟩ := parse_eq_ok_iff.mp h
    refine ⟨hreadable.parse_text le_rfl hvalidate, hvalidate, ?_, ?_⟩
    · intro name fields hmem
      exact hreadable.isPlain _ hmem
    · intro elem hmem
      exact hreadable.isPlain _ hmem rfl
  · intro t hvalidate hne hnesting
    exact parse_text_of_fits (fits_spec hne hnesting) hvalidate

/-- A text with the word for a tuple, an enumeration, a size with zeros in front and a comma at the
end, and a struct within an array within a struct. -/
theorem parse_canonical_text_nested :
    (∃ t, AbiType.parse " tuple( uint,Lib.Kind[007], )[]" = .ok t ∧
      t.text = "(uint256,uint8[7])[]" ∧
      AbiType.parse "(uint256,uint8[7])[]" = .ok t) ∧
    let order : AbiType := struct "Order" [address, fixedArray (struct "Item" [int 64, tuple []]) 2]
    order.validate = .ok () ∧ (∀ elem, fixedArray elem 0 ∉ order.components) ∧ order.nesting ≤ 79 ∧
    order.text = "(address,(int64,())[2])" ∧
    AbiType.parse order.text = .ok (tuple [address, fixedArray (tuple [int 64, tuple []]) 2]) := by
  obtain ⟨hread, hbuilt⟩ := parse_canonical_text
  constructor
  · have htext : (AbiType.parse " tuple( uint,Lib.Kind[007], )[]").map text =
        .ok "(uint256,uint8[7])[]" := by
      decide +kernel
    obtain ⟨t, hparse, htext⟩ := Except.map_eq_ok_iff.mp htext
    exact ⟨t, hparse, htext, htext ▸ (hread _ t hparse).1⟩
  · intro order
    have hvalidate : order.validate = .ok () := by decide +kernel
    have hne : ∀ elem, fixedArray elem 0 ∉ order.components := by
      simp [order, components, allComponents]
    have hnesting : order.nesting ≤ 79 := by decide
    exact ⟨hvalidate, hne, hnesting, by decide +kernel, hbuilt order hvalidate hne hnesting⟩

end AbiType

end ContractCalls
