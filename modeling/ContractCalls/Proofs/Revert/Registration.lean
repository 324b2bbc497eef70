import ContractCalls.Proofs.Signature.Declarations

/-!
# Runs of registrations

However many definitions and signatures are registered, the first definition with a selector stays:
it is found, it alone was added, and revert data with its selector are read by it from then on.
Signatures that cannot be read leave the registry as it is.
-/

namespace ContractCalls

/-- What is registered: a definition, or the signature of an error. -/
inductive Registration where
  | definition (d : ErrorDefinition)
  | signature (text : String)

/-- The definition that is offered, unless it is a signature that cannot be read. -/
def Registration.definition? : Registration → Option ErrorDefinition
  | definition d => some d
  | signature text => (ErrorDefinition.parse text).toOption

namespace ErrorRegistry

/-- The registry after a registration. -/
def perform (r : ErrorRegistry) : Registration → ErrorRegistry
  | .definition d => (r.register d).1
  | .signature text => (r.registerSignature text).1

def performAll (r : ErrorRegistry) (steps : List Registration) : ErrorRegistry :=
  steps.foldl perform r

/-! ### One registration -/

lemma find?_cons_eq_or (d : ErrorDefinition) (ds : List ErrorDefinition) (s : Selector) :
    (d :: ds).find? (·.selector == s) =
      ([d].find? (·.selector == s)).or (ds.find? (·.selector == s)) := by
  rw [← List.find?_append, List.singleton_append]

/-- A new definition is found if there was none with its selector. -/
lemma lookup_register (r : ErrorRegistry) (d : ErrorDefinition) (s : Selector) :
    (r.register d).1.lookup s = (r.lookup s).or ([d].find? (·.selector == s)) := by
  rw [register]
  split
  · next hknown =>
    by_cases hs : d.selector = s
    · rw [← hs, Option.or_of_isSome hknown]
    · simp [hs]
  · exact List.find?_append

lemma isSome_find?_iff {ds : List ErrorDefinition} {s : Selector} :
    (ds.find? (·.selector == s)).isSome = true ↔ s ∈ ds.map (·.selector) := by
  simp

/-- A definition is added if there was none with its selector. -/
lemma snd_register_eq_true_iff {r : ErrorRegistry} {d : ErrorDefinition} :
    (r.register d).2 = true ↔ r.lookup d.selector = none := by
  rw [register]
  cases r.lookup d.selector <;> simp

/-- Selectors stay different. -/
lemma nodup_register {r : ErrorRegistry} (h : (r.definitions.map (·.selector)).Nodup)
    (d : ErrorDefinition) : ((r.register d).1.definitions.map (·.selector)).Nodup := by
  rw [register]
  split
  · exact h
  · next hnew =>
    have hmem : d.selector ∉ r.definitions.map (·.selector) :=
      fun hmem => hnew (isSome_find?_iff.mpr hmem)
    rw [List.map_append, List.map_singleton, ← List.concat_eq_append]
    exact h.concat hmem

/-- A registration adds the definition that it offers. -/
lemma perform_eq (r : ErrorRegistry) (step : Registration) :
    r.perform step = step.definition?.elim r fun d => (r.register d).1 := by
  cases step with
  | definition d => rfl
  | signature text =>
    rw [perform, registerSignature, Registration.definition?]
    cases ErrorDefinition.parse text <;> rfl

/-! ### Runs -/

lemma lookup_performAll (r : ErrorRegistry) (steps : List Registration) (s : Selector) :
    (r.performAll steps).lookup s =
      (r.lookup s).or ((steps.filterMap Registration.definition?).find? (·.selector == s)) := by
  induction steps generalizing r with
  | nil => simp [performAll]
  | cons step steps ih =>
    have hrun : r.performAll (step :: steps) = (r.perform step).performAll steps := rfl
    rw [hrun, ih, perform_eq, List.filterMap_cons]
    cases step.definition? with
    | none => rfl
    | some d => rw [Option.elim_some, lookup_register, Option.or_assoc, ← find?_cons_eq_or]

lemma nodup_performAll {r : ErrorRegistry} (h : (r.definitions.map (·.selector)).Nodup)
    (steps : List Registration) : ((r.performAll steps).definitions.map (·.selector)).Nodup := by
  induction steps generalizing r with
  | nil => exact h
  | cons step steps ih =>
    refine ih (r := r.perform step) ?_
    rw [perform_eq]
    cases step.definition? with
    | none => exact h
    | some d => exact nodup_register h d

/-- The selectors of a run are those that were offered. -/
lemma size_eq_card {r : ErrorRegistry} (hnodup : (r.definitions.map (·.selector)).Nodup)
    {offered : List ErrorDefinition} (h : ∀ s, r.lookup s = offered.find? (·.selector == s)) :
    r.size = (offered.map (·.selector)).toFinset.card := by
  have hmem : (r.definitions.map (·.selector)).toFinset = (offered.map (·.selector)).toFinset := by
    ext s
    rw [List.mem_toFinset, List.mem_toFinset, ← isSome_find?_iff, ← isSome_find?_iff, ← h]
    rfl
  rw [← hmem, List.toFinset_card_of_nodup hnodup, List.length_map, size]

/-- Only the definition that is found has to do with the reading of revert data. -/
lemma decodeRevert_congr {r r' : ErrorRegistry} {data : Bytes}
    (h : r.lookup (Bytes.toBitVec 32 (data.take 4)) = r'.lookup (Bytes.toBitVec 32 (data.take 4))) :
    r.decodeRevert data = r'.decodeRevert data := by
  simp only [decodeRevert, h]

/-- After any run of registrations, the definition that is found for a selector is the first one
that was offered with it, a further one is added just if it is the first with its selector, and
there are as many as there were selectors. A signature that cannot be read changes nothing, and
revert data with a selector that was offered are read in the same way after any more
registrations. -/
theorem first_registration_stays (steps : List Registration) :
    let r := performAll {} steps
    let offered := steps.filterMap Registration.definition?
    (∀ s, r.lookup s = offered.find? (·.selector == s)) ∧
    (∀ d, (r.register d).2 = true ↔ ∀ d' ∈ offered, d'.selector ≠ d.selector) ∧
    r.size = (offered.map (·.selector)).toFinset.card ∧
    (∀ text err, (r.registerSignature text).2 = .error err → (r.registerSignature text).1 = r) ∧
    ∀ data : Bytes, (∃ d ∈ offered, d.selector = Bytes.toBitVec 32 (data.take 4)) →
      ∀ more, (r.performAll more).decodeRevert data = r.decodeRevert data := by
  intro r offered
  have hlookup : ∀ s, r.lookup s = offered.find? (·.selector == s) := lookup_performAll {} steps
  have hnodup : (r.definitions.map (·.selector)).Nodup :=
    nodup_performAll (r := {}) List.nodup_nil steps
  refine ⟨hlookup, ?added, size_eq_card hnodup hlookup, ?failed, ?later⟩
  case added =>
    intro d
    rw [snd_register_eq_true_iff, hlookup, List.find?_eq_none]
    simp only [beq_iff_eq, ne_eq]
  case failed =>
    intro text err herr
    rw [registerSignature] at herr ⊢
    split at herr
    · cases herr
    · rfl
  case later =>
    rintro data ⟨d, hd, hs⟩ more
    refine decodeRevert_congr ?_
    rw [lookup_performAll, hlookup, Option.or_of_isSome]
    exact isSome_find?_iff.mpr (hs ▸ List.mem_map_of_mem hd)

/-- A signature that names the tuple of the fields of a known struct comes too late, and one that
cannot be read does not count. -/
theorem first_registration_stays_struct :
    let known : ErrorDefinition := { name := "Bad", inputs := [.struct "Code" [.uint 8]] }
    let late : ErrorDefinition := { name := "Bad", inputs := [.tuple [.uint 8]] }
    let r := performAll {} [.definition known, .signature "Bad(", .signature "Bad((uint8))"]
    ErrorDefinition.parse "Bad((uint8))" = .ok late ∧ r.lookup late.selector = some known ∧
    (r.register late).2 = false ∧ r.size = 1 ∧ (r.registerSignature "Bad(").1 = r ∧
    ∀ body more, (r.performAll more).decodeRevert (Bytes.ofBitVec late.selector ++ body) =
      r.decodeRevert (Bytes.ofBitVec late.selector ++ body) := by
  intro known late r
  have hselector : late.selector = known.selector :=
    congrArg Selector.ofText (Signature.canonical_eraseNames "Bad" known.inputs)
  have htext : Signature.canonical "Bad" late.inputs = "Bad((uint8))" := by decide +kernel
  have hfield : AbiType.IsParameter (.tuple [.uint 8]) := by
    refine ⟨.tuple (List.cons_ne_nil _ _) ?_, by decide +kernel⟩
    exact List.forall_mem_singleton.mpr (.of_isElementary trivial)
  have hparse : ErrorDefinition.parse "Bad((uint8))" = .ok late := by
    rw [← htext]
    exact ErrorDefinition.parse_canonical (by decide +kernel) (List.forall_mem_singleton.mpr hfield)
  obtain ⟨err, hmalformed⟩ : ∃ err, ErrorDefinition.parse "Bad(" = .error err := by
    have hnone : (ErrorDefinition.parse "Bad(").toOption.isNone = true := by decide +kernel
    cases hread : ErrorDefinition.parse "Bad(" with
    | ok d => simp [hread, Except.toOption] at hnone
    | error err => exact ⟨err, rfl⟩
  obtain ⟨hlookup, hadded, hsize, hfailed, hlater⟩ :=
    first_registration_stays [.definition known, .signature "Bad(", .signature "Bad((uint8))"]
  have hoffered : [.definition known, .signature "Bad(", .signature "Bad((uint8))"].filterMap
      Registration.definition? = [known, late] := by
    simp [Registration.definition?, hparse, hmalformed, Except.toOption]
  -- From here on the selectors are not computed.
  clear_value known late
  rw [hoffered] at hlookup hadded hsize hlater
  refine ⟨hparse, ?_, ?_, ?_, hfailed "Bad(" err ?_, fun body more => hlater _ ?_ more⟩
  · rw [hlookup, hselector]
    exact List.find?_cons_of_pos (beq_self_eq_true _)
  · exact Bool.eq_false_of_not_eq_true fun h =>
      (hadded late).mp h known List.mem_cons_self hselector.symm
  · rw [hsize]
    simp [hselector]
  · rw [registerSignature, hmalformed]
  · exact ⟨late, by simp, (Bytes.toBitVec_take_selector_append _ _).symm⟩

end ErrorRegistry

end ContractCalls
