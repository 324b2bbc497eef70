import ContractCalls.Proofs.Signature.Types

/-!
# Canonical signatures

The type of each parameter of a signature is read from a text of its own. What a signature stands
for in the end, a name and types, has a canonical text as well, from which the same name and types
are read.
-/

namespace ContractCalls

open Signature

namespace Signature

/-! ### Parameters -/

namespace TypeSpec

mutual

/-- The type as the text of a parameter has it: a list without types is a name there. -/
def named : TypeSpec → TypeSpec
  | root name sizes => root name sizes
  | tuple [] sizes => root "tuple" sizes
  | tuple (c :: cs) sizes => tuple (c.named :: namedAll cs) sizes

def namedAll : List TypeSpec → List TypeSpec
  | [] => []
  | c :: cs => c.named :: namedAll cs

end

lemma namedAll_eq_map (specs : List TypeSpec) : namedAll specs = specs.map named := by
  induction specs with
  | nil => rfl
  | cons c cs ih => rw [namedAll, ih, List.map_cons]

mutual

lemma toList_text (spec : TypeSpec) : spec.text.toList = spec.named.written := by
  match spec with
  | root name sizes | tuple [] sizes => rw [text, named, written, String.toList_append]
  | tuple (c :: cs) sizes =>
    have hcomponents := toList_listText (c :: cs)
    rw [namedAll] at hcomponents
    simp [text, named, written, hcomponents]

lemma toList_listText (specs : List TypeSpec) :
    (listText specs).toList = writtenAll (namedAll specs) := by
  match specs with
  | [] => rfl
  | [c] => rw [listText, toList_text c, namedAll, namedAll, writtenAll]
  | c :: d :: cs =>
    have hmore := toList_listText (d :: cs)
    rw [namedAll] at hmore
    simp [listText, namedAll, writtenAll, toList_text c, hmore]

end

end TypeSpec

lemma Fits.named {depth : Nat} {spec : TypeSpec} (h : Fits true depth spec) :
    Fits false depth spec.named := by
  induction h with
  | root hname hsizes => exact .root hname hsizes
  | empty _ hsizes => exact .root (by decide +kernel) hsizes
  | @tuple depth components sizes hne _ hsizes ih =>
    cases components with
    | nil => exact absurd rfl hne
    | cons c cs =>
      rw [TypeSpec.named, ← TypeSpec.namedAll, TypeSpec.namedAll_eq_map]
      exact .tuple (List.cons_ne_nil _ _) (List.forall_mem_map.mpr ih) hsizes

/-- Without empty lists, the text of a parameter is that of its type. -/
lemma Fits.named_eq_self {depth : Nat} {spec : TypeSpec} (h : Fits false depth spec) :
    spec.named = spec := by
  induction h with
  | root => rfl
  | empty hempty => cases hempty
  | @tuple depth components sizes hne _ _ ih =>
    cases components with
    | nil => exact absurd rfl hne
    | cons c cs =>
      rw [TypeSpec.named, ← TypeSpec.namedAll, TypeSpec.namedAll_eq_map, List.map_congr_left ih,
        List.map_id']

end Signature

/-- A legal type that can be read as a parameter. -/
structure AbiType.IsParameter (t : AbiType) : Prop extends IsReadable false (maxDepth - 1) t where
  validate : t.validate = .ok ()

namespace Signature

lemma isParameter_of_parse {spec : TypeSpec} (hspec : Fits true (maxDepth - 1) spec) {t : AbiType}
    (h : AbiType.parse spec.text = .ok t) : t.IsParameter := by
  obtain ⟨spec', hread, hresolve, hvalidate⟩ := AbiType.parse_eq_ok_iff.mp h
  rw [TypeSpec.toList_text, wholeType_written (hspec.named.mono (Nat.sub_le _ _))] at hread
  obtain rfl := Option.some.inj hread
  exact ⟨AbiType.isReadable_of_resolve hspec.named hresolve, hvalidate⟩

lemma text_spec {t : AbiType} (h : t.IsParameter) : t.spec.text = t.text := by
  rw [← String.toList_inj, TypeSpec.toList_text, h.fits.named_eq_self, t.toList_text]

lemma isParameter_of_parameterTypes {specs : List TypeSpec}
    (hspecs : ∀ spec ∈ specs, Fits true (maxDepth - 1) spec) {types : List AbiType}
    (h : parameterTypes specs = .ok types) : ∀ t ∈ types, t.IsParameter := by
  intro t ht
  obtain ⟨spec, hspec, hparse⟩ := List.exists_of_mapM_eq_ok h t ht
  exact isParameter_of_parse (hspecs spec hspec) hparse

/-- The types of parameters are read from their canonical texts. -/
lemma parameterTypes_specs {types : List AbiType} (h : ∀ t ∈ types, t.IsParameter) :
    parameterTypes (AbiType.specs types) = .ok types := by
  rw [AbiType.specs_eq_map]
  refine List.mapM_map_eq_pure fun t ht => ?_
  rw [text_spec (h t ht)]
  exact (h t ht).parse_text (Nat.sub_le _ _) (h t ht).validate

lemma fits_of_parameters {s rest : List Char} {specs : List TypeSpec}
    (h : parameters s = some (specs, rest)) : ∀ spec ∈ specs, Fits true (maxDepth - 1) spec := by
  refine forall_of_list (fun s spec rest h => ?_) h
  obtain ⟨⟨_, after⟩, hspec, h⟩ := Option.bind_eq_some_iff.mp h
  obtain ⟨rfl, -⟩ := Prod.mk.inj (Option.some.inj h)
  exact fits_of_typeSpec hspec

/-- Before a comma or the end of a list, no name is left out. -/
lemma skipParameterName_eq_self {rest : List Char} (h : EndsType rest) :
    skipParameterName rest = rest := by
  cases rest with
  | nil => rfl
  | cons c rest => rcases h c rfl with rfl | rfl <;> rfl

/-- The canonical text of a list of parameters, and what stands after it. -/
def listed (types : List AbiType) (rest : List Char) : List Char :=
  '(' :: ((AbiType.listText types).toList ++ ')' :: rest)

lemma parameters_listed {types : List AbiType} (h : ∀ t ∈ types, t.IsParameter) (rest : List Char) :
    parameters (listed types rest) = some (AbiType.specs types, rest) := by
  cases types with
  | nil => rfl
  | cons t ts =>
    have hfits : ∀ spec ∈ AbiType.specs (t :: ts), Fits false (maxDepth - 1) spec := by
      rw [AbiType.specs_eq_map]
      exact List.forall_mem_map.mpr fun u hu => (h u hu).fits
    rw [listed, AbiType.toList_listText]
    refine list_writtenAll (List.cons_ne_nil _ _)
      (fun spec hspec => startsType_written (hfits spec hspec)) ?_ rest
    intro spec hspec rest hrest
    rw [parameter, typeSpec_written (hfits spec hspec) hrest]
    simp [skipParameterName_eq_self hrest]

/-! ### Signatures -/

/-- What a signature can say. -/
structure Declaration.IsReadable (decl : Declaration) : Prop where
  name : IsRootName decl.name
  inputs : ∀ spec ∈ decl.inputs, Fits true (maxDepth - 1) spec
  outputs : ∀ spec ∈ decl.outputs, Fits true (maxDepth - 1) spec

lemma fits_of_results {s rest : List Char} {specs : List TypeSpec}
    (h : results s = some (specs, rest)) : ∀ spec ∈ specs, Fits true (maxDepth - 1) spec := by
  rw [results] at h
  split at h
  · exact fits_of_parameters h
  · obtain ⟨rfl, -⟩ := Prod.mk.inj (Option.some.inj h)
    exact List.forall_mem_nil _

lemma isReadable_of_declaration {withResults : Bool} {s : List Char} {decl : Declaration}
    (h : declaration withResults s = some decl) : decl.IsReadable := by
  obtain ⟨⟨name, rest⟩, hname, h⟩ := Option.bind_eq_some_iff.mp h
  obtain ⟨⟨inputs, rest⟩, hinputs, h⟩ := Option.bind_eq_some_iff.mp h
  have hfits : ∀ rest outputs after,
      (if withResults then results rest else some ([], rest)) = some (outputs, after) →
      ∀ spec ∈ outputs, Fits true (maxDepth - 1) spec := by
    intro rest outputs after houtputs
    split at houtputs
    · exact fits_of_results houtputs
    · obtain ⟨rfl, -⟩ := Prod.mk.inj (Option.some.inj houtputs)
      exact List.forall_mem_nil _
  dsimp only at h
  -- Both branches go on in the same way with what they have read.
  rw [← apply_ite (· >>= _)] at h
  obtain ⟨⟨outputs, rest⟩, houtputs, h⟩ := Option.bind_eq_some_iff.mp h
  dsimp only at h
  split at h
  · obtain rfl := Option.some.inj h
    exact ⟨isRootName_of_rootName hname, fits_of_parameters hinputs, hfits _ _ _ houtputs⟩
  · cases h

/-! ### Canonical signatures -/

lemma toList_canonical (name : String) (inputs : List AbiType) :
    (canonical name inputs).toList = name.toList ++ listed inputs [] := by
  simp [canonical, listed]

lemma endsName_listed (types : List AbiType) (rest : List Char) : EndsName (listed types rest) := by
  rintro _ ⟨⟩
  decide

lemma rootName_listed {name : String} (hname : IsRootName name) (types : List AbiType)
    (rest : List Char) :
    rootName (name.toList ++ listed types rest) = some (name, listed types rest) := by
  refine rootName_append hname (endsName_listed types rest) ?_
  rintro _ ⟨⟩
  decide

section

variable {name : String} {inputs outputs : List AbiType}

lemma declaration_listed (hname : IsRootName name) (hinputs : ∀ t ∈ inputs, t.IsParameter)
    (withResults : Bool) : declaration withResults (name.toList ++ listed inputs []) =
      some ⟨name, AbiType.specs inputs, [], false, false⟩ := by
  have hparameters : parameters (skipBlanks (listed inputs [])) = some (AbiType.specs inputs, []) :=
    parameters_listed hinputs []
  simp only [declaration, rootName_listed hname, hparameters, Option.bind_eq_bind, Option.bind_some]
  cases withResults <;> rfl

lemma declaration_returns (hname : IsRootName name) (hinputs : ∀ t ∈ inputs, t.IsParameter)
    (houtputs : ∀ t ∈ outputs, t.IsParameter) :
    declaration true (name.toList ++ listed inputs (" returns ".toList ++ listed outputs [])) =
      some ⟨name, AbiType.specs inputs, AbiType.specs outputs, false, false⟩ := by
  have hparameters :
      ∀ rest, parameters (skipBlanks (listed inputs rest)) = some (AbiType.specs inputs, rest) :=
    parameters_listed hinputs
  have hvisibility : ∀ rest,
      spacedWord? ["internal", "external", "private", "public"]
        (" returns ".toList ++ rest) = none :=
    fun _ => rfl
  have hmutability :
      ∀ rest, spacedWord? ["pure", "view", "payable"] (" returns ".toList ++ rest) = none :=
    fun _ => rfl
  have hresults :
      results (" returns ".toList ++ listed outputs []) = some (AbiType.specs outputs, []) :=
    parameters_listed houtputs []
  simp only [declaration, rootName_listed hname, hparameters, hvisibility, hmutability, hresults,
    Option.bind_eq_bind, Option.bind_some, Option.getD_none, if_true]
  rfl

/-- A keyword in front of a name is followed by a blank, and a name by its parameters. -/
lemma body_eq_self {keyword text : String} (hkeyword : IsName keyword) (hname : IsName name)
    {rest : List Char} (htext : text.toList = name.toList ++ listed inputs rest)
    (hlast : text.toList.getLast? = some ')') : body keyword text = text.toList := by
  have htrim : Text.trim text.toList = text.toList := by
    refine Text.trim_eq_self ?_ ?_
    · obtain ⟨c, cs, hchars, -⟩ := hname.exists_toList
      rw [htext, hchars]
      rintro _ ⟨⟩
      exact isBlank_of_isNameRest (hname.isNameRest c (hchars ▸ List.mem_cons_self))
    · rw [hlast]
      rintro _ ⟨⟩
      rfl
  rw [body, htrim]
  split
  · next c after hword =>
    refine if_neg fun hblank => ?_
    have hends : EndsName (c :: after) := by
      rintro _ ⟨⟩
      by_contra hrest
      rw [isBlank_of_isNameRest (Bool.eq_true_of_not_eq_false hrest)] at hblank
      cases hblank
    -- The name would be the keyword, and the parenthesis after it a blank.
    obtain ⟨rfl, -⟩ :=
      List.cons.inj (rest_eq_of_name_append hname hkeyword (endsName_listed inputs rest) hends
      (htext.symm.trans (word?_eq_some_iff.mp hword)))
    cases hblank
  · rfl

lemma listed_append (types : List AbiType) (rest after : List Char) :
    listed types (rest ++ after) = listed types rest ++ after := by
  simp [listed]

lemma getLast?_listed (before : List Char) (types : List AbiType) :
    (before ++ listed types []).getLast? = some ')' := by
  rw [listed, ← List.cons_append, ← List.append_assoc, List.getLast?_concat]

/-- The canonical signature is read as it stands, after whatever keyword might have been in
front. -/
lemma declaration_canonical (keyword : String) (hkeyword : IsName keyword) (hname : IsRootName name)
    (hinputs : ∀ t ∈ inputs, t.IsParameter) (withResults : Bool) :
    declaration withResults (body keyword (canonical name inputs)) =
      some ⟨name, AbiType.specs inputs, [], false, false⟩ := by
  have htext := toList_canonical name inputs
  rw [body_eq_self hkeyword hname.toIsName htext (htext ▸ getLast?_listed _ inputs), htext]
  exact declaration_listed hname hinputs withResults

end

end Signature

/-! ### Reading canonical signatures -/

namespace AbiFunction

lemma parse_eq_ok_iff {text : String} {f : AbiFunction} :
    AbiFunction.parse text = .ok f ↔ ∃ decl, declaration true (body "function" text) = some decl ∧
      decl.isAnonymous = false ∧ ∃ inputs, parameterTypes decl.inputs = .ok inputs ∧
      ∃ outputs, parameterTypes decl.outputs = .ok outputs ∧
        f = { name := decl.name, inputs, outputs } := by
  rw [AbiFunction.parse]
  cases declaration true (body "function" text) with
  | none => simp
  | some decl =>
    simp only [Option.some.injEq, exists_eq_left', Except.unless_throw_eq_ok_iff,
      Except.bind_eq_ok_iff, Except.pure_eq_ok_iff, Bool.not_eq_true]

/-- A name and types of parameters and results that a signature can have. -/
structure IsReadable (f : AbiFunction) : Prop where
  name : IsRootName f.name
  inputs : ∀ t ∈ f.inputs, t.IsParameter
  outputs : ∀ t ∈ f.outputs, t.IsParameter

lemma isReadable_of_parse {text : String} {f : AbiFunction} (h : AbiFunction.parse text = .ok f) :
    f.IsReadable := by
  obtain ⟨decl, hread, -, inputs, hinputs, outputs, houtputs, rfl⟩ := parse_eq_ok_iff.mp h
  have hdecl := isReadable_of_declaration hread
  exact ⟨hdecl.name, isParameter_of_parameterTypes hdecl.inputs hinputs,
    isParameter_of_parameterTypes hdecl.outputs houtputs⟩

lemma IsReadable.parse_signature {f : AbiFunction} (h : f.IsReadable) :
    AbiFunction.parse f.signature = .ok { f with outputs := [] } := by
  have hread := declaration_canonical "function" (by decide +kernel) h.name h.inputs true
  exact parse_eq_ok_iff.mpr ⟨_, hread, rfl, _, parameterTypes_specs h.inputs, _, rfl, rfl⟩

lemma toList_text {f : AbiFunction} (h : f.outputs ≠ []) :
    f.text.toList =
      f.name.toList ++ listed f.inputs (" returns ".toList ++ listed f.outputs []) := by
  rw [text, if_neg (by simpa using h), signature]
  simp [toList_canonical, listed]

/-- The text of a function ends with its results, unless it has none. -/
lemma IsReadable.parse_text {f : AbiFunction} (h : f.IsReadable) :
    AbiFunction.parse f.text = .ok f := by
  by_cases houtputs : f.outputs = []
  · have hsignature : f.text = f.signature := by rw [text, houtputs, List.isEmpty_nil, if_pos rfl]
    have hself : { f with outputs := [] } = f := by rw [← houtputs]
    rw [hsignature, h.parse_signature, hself]
  · have htext := toList_text houtputs
    have hlast : f.text.toList.getLast? = some ')' := by
      rw [htext, listed_append, ← List.append_assoc]
      exact getLast?_listed _ f.outputs
    have hbody : body "function" f.text = f.text.toList :=
      body_eq_self (by decide +kernel) h.name.toIsName htext hlast
    have hread : declaration true (body "function" f.text) = _ :=
      (congrArg _ (hbody.trans htext)).trans (declaration_returns h.name h.inputs h.outputs)
    exact parse_eq_ok_iff.mpr
      ⟨_, hread, rfl, _, parameterTypes_specs h.inputs, _, parameterTypes_specs h.outputs, rfl⟩

end AbiFunction

namespace ErrorDefinition

lemma parse_eq_ok_iff {text : String} {d : ErrorDefinition} :
    ErrorDefinition.parse text = .ok d ↔ ∃ decl, declaration false (body "error" text) = some decl ∧
      decl.isAnonymous = false ∧ decl.hasMutability = false ∧
      ∃ inputs, parameterTypes decl.inputs = .ok inputs ∧ d = { name := decl.name, inputs } := by
  rw [ErrorDefinition.parse]
  cases declaration false (body "error" text) with
  | none => simp
  | some decl =>
    simp only [Option.some.injEq, exists_eq_left', Except.unless_throw_eq_ok_iff,
      Except.bind_eq_ok_iff, Except.pure_eq_ok_iff, Bool.not_eq_true]

lemma parse_canonical {name : String} (hname : IsRootName name) {inputs : List AbiType}
    (hinputs : ∀ t ∈ inputs, t.IsParameter) :
    ErrorDefinition.parse (canonical name inputs) = .ok { name, inputs } := by
  have hread := declaration_canonical "error" (by decide +kernel) hname hinputs false
  exact parse_eq_ok_iff.mpr ⟨_, hread, rfl, rfl, inputs, parameterTypes_specs hinputs, rfl⟩

end ErrorDefinition

namespace Signature

/-- A function that was read from any text is read again from its canonical text, and without
results from its canonical signature, which has the same selector. A custom error that was read from
any text is read again from its canonical signature. -/
theorem parse_canonical_signature :
    (∀ s f, AbiFunction.parse s = .ok f → AbiFunction.parse f.text = .ok f ∧
      AbiFunction.parse f.signature = .ok { f with outputs := [] } ∧
      ({ f with outputs := [] } : AbiFunction).selector = f.selector) ∧
    ∀ s d, ErrorDefinition.parse s = .ok d →
      ErrorDefinition.parse (canonical d.name d.inputs) = .ok d := by
  constructor
  · intro s f h
    have hreadable := AbiFunction.isReadable_of_parse h
    exact ⟨hreadable.parse_text, hreadable.parse_signature, rfl⟩
  · intro s d h
    obtain ⟨decl, hread, -, -, inputs, hinputs, rfl⟩ := ErrorDefinition.parse_eq_ok_iff.mp h
    have hdecl := isReadable_of_declaration hread
    exact ErrorDefinition.parse_canonical hdecl.name
      (isParameter_of_parameterTypes hdecl.inputs hinputs)

/-- A function whose name is dotted, with words before the names of its parameters, and an error
with the name of the keyword. -/
theorem parse_canonical_signature_named :
    (∃ f,
      AbiFunction.parse
        "function Lib.run (uint memory memory,tuple( Lib.Kind,bool)[] x, )view returns(int)" =
        .ok f ∧
      f.text = "uint8(uint256,(uint8,bool)[]) returns (int256)" ∧
      AbiFunction.parse f.text = .ok f ∧
      AbiFunction.parse f.signature = .ok { f with outputs := [] }) ∧
    ∃ d, ErrorDefinition.parse "error error (address indexed who)" = .ok d ∧
      ErrorDefinition.parse "error(address)" = .ok d := by
  obtain ⟨hfunctions, herrors⟩ := parse_canonical_signature
  constructor
  · have htext :
        (AbiFunction.parse
          "function Lib.run (uint memory memory,tuple( Lib.Kind,bool)[] x, )view returns(int)").map
          AbiFunction.text =
        .ok "uint8(uint256,(uint8,bool)[]) returns (int256)" := by
      decide +kernel
    obtain ⟨f, hparse, htext⟩ := Except.map_eq_ok_iff.mp htext
    obtain ⟨hself, hsignature, -⟩ := hfunctions _ f hparse
    exact ⟨f, hparse, htext, hself, hsignature⟩
  · have htext : (ErrorDefinition.parse "error error (address indexed who)").map
        (fun d => canonical d.name d.inputs) = .ok "error(address)" := by
      decide +kernel
    obtain ⟨d, hparse, htext⟩ := Except.map_eq_ok_iff.mp htext
    exact ⟨d, hparse, htext ▸ herrors _ d hparse⟩

end Signature

end ContractCalls
