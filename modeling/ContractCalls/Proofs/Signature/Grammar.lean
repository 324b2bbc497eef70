import ContractCalls.Proofs.Signature.Words

/-!
# Written types

What the grammar reads as a type is a name or a list of types with array brackets, and its lists do
not nest too deep. Written with commas alone between the types of a list, all such types are read
back.
-/

namespace ContractCalls.Signature

/-! ### What is read -/

/-- Array brackets have no size or a positive one. -/
def ArePositive (sizes : List (Option UInt64)) : Prop :=
  ∀ size ∈ sizes, size ≠ some 0

/-- The types with lists nested at most so deep; lists without types do not count, where there may
be any. -/
inductive Fits (hasEmpty : Bool) : (depth : Nat) → TypeSpec → Prop where
  | root {depth : Nat} {name : String} {sizes : List (Option UInt64)} (hname : IsRootName name)
      (hsizes : ArePositive sizes) : Fits hasEmpty depth (.root name sizes)
  | empty {depth : Nat} {sizes : List (Option UInt64)} (hempty : hasEmpty = true)
      (hsizes : ArePositive sizes) : Fits hasEmpty depth (.tuple [] sizes)
  | tuple {depth : Nat} {components : List TypeSpec} {sizes : List (Option UInt64)}
      (hne : components ≠ []) (h : ∀ c ∈ components, Fits hasEmpty depth c)
      (hsizes : ArePositive sizes) :
      Fits hasEmpty (depth + 1) (.tuple components sizes)

lemma arePositive_of_sizes {s rest : List Char} {read : List (Option UInt64)}
    (h : sizes s = some (read, rest)) : ArePositive read := by
  induction s using sizes.induct generalizing read rest with
  | case1 digits after hclose ih =>
    rw [sizes, hclose] at h
    obtain ⟨size, hsize, h⟩ := Option.bind_eq_some_iff.mp h
    obtain ⟨⟨more, after⟩, hmore, h⟩ := Option.bind_eq_some_iff.mp h
    obtain ⟨rfl, -⟩ := Prod.mk.inj (Option.some.inj h)
    exact List.forall_mem_cons.mpr ⟨size?_ne_zero hsize, ih hmore⟩
  | case2 digits hclose =>
    rw [sizes] at h
    split at h
    · exact absurd ‹_› (hclose _)
    · cases h
  | case3 s hopen =>
    rw [sizes.eq_2 s hopen] at h
    obtain ⟨rfl, -⟩ := Prod.mk.inj (Option.some.inj h)
    exact List.forall_mem_nil _

section

variable {α : Type} {item : Parser α} {p : α → Prop} {s rest : List Char} {xs : List α}

lemma forall_of_items (hitem : ∀ s x rest, item s = some (x, rest) → p x) {fuel : Nat}
    (h : items item fuel s = some (xs, rest)) : ∀ x ∈ xs, p x := by
  induction fuel generalizing s rest xs with
  | zero => cases h
  | succ fuel ih =>
    obtain ⟨⟨first, after⟩, hread, h⟩ := Option.bind_eq_some_iff.mp h
    have hfirst : p first := hitem _ _ _ hread
    dsimp only at h
    split at h
    · split at h
      · obtain ⟨rfl, -⟩ := Prod.mk.inj (Option.some.inj h)
        exact List.forall_mem_singleton.mpr hfirst
      · obtain ⟨⟨more, after⟩, hmore, h⟩ := Option.bind_eq_some_iff.mp h
        obtain ⟨rfl, -⟩ := Prod.mk.inj (Option.some.inj h)
        exact List.forall_mem_cons.mpr ⟨hfirst, ih hmore⟩
    · split at h
      · obtain ⟨rfl, -⟩ := Prod.mk.inj (Option.some.inj h)
        exact List.forall_mem_singleton.mpr hfirst
      · cases h

lemma forall_of_list (hitem : ∀ s x rest, item s = some (x, rest) → p x)
    (h : list item s = some (xs, rest)) : ∀ x ∈ xs, p x := by
  rw [list.eq_def] at h
  split at h
  · split at h
    · obtain ⟨rfl, -⟩ := Prod.mk.inj (Option.some.inj h)
      exact List.forall_mem_nil _
    · exact forall_of_items hitem h
  · cases h

end

/-- A type within a list of a type whose lists nest at most `depth` deep. -/
def component : (depth : Nat) → Parser TypeSpec
  | 0 => fun _ => none
  | depth + 1 => typeSpec depth

lemma typeSpec_tuple_iff {s s' rest : List Char} (h : tupleList? s = some s') {depth : Nat}
    {spec : TypeSpec} : typeSpec depth s = some (spec, rest) ↔
      ∃ components after, list (component depth) s' = some (components, after) ∧
      ∃ read, sizes after = some (read, rest) ∧ spec = .tuple components read := by
  rw [typeSpec, h]
  cases depth
  all_goals simp [component, Option.bind_eq_some_iff, eq_comm (a := spec)]

lemma typeSpec_root_iff {s rest : List Char} (h : tupleList? s = none) {depth : Nat}
    {spec : TypeSpec} :
    typeSpec depth s = some (spec, rest) ↔ ∃ root after, rootName s = some (root, after) ∧
      ∃ read, sizes after = some (read, rest) ∧ spec = .root root read := by
  rw [typeSpec, h]
  simp [Option.bind_eq_some_iff, eq_comm (a := spec)]

lemma fits_tuple {depth : Nat} {components : List TypeSpec} {sizes : List (Option UInt64)}
    {s rest : List Char} (hcomponents : list (component depth) s = some (components, rest))
    (hfits : ∀ d s c rest, d < depth → typeSpec d s = some (c, rest) → Fits true d c)
    (hsizes : ArePositive sizes) : Fits true depth (.tuple components sizes) := by
  match depth, components with
  | _, [] => exact .empty rfl hsizes
  | 0, c :: cs =>
    exact absurd List.mem_cons_self (forall_of_list (p := fun _ => False) nofun hcomponents c)
  | depth + 1, c :: cs =>
    exact .tuple (List.cons_ne_nil c cs)
      (forall_of_list (fun s c rest => hfits depth s c rest depth.lt_succ_self) hcomponents) hsizes

/-- What is read is within the depth that is allowed. -/
lemma fits_of_typeSpec {depth : Nat} {s rest : List Char} {spec : TypeSpec}
    (h : typeSpec depth s = some (spec, rest)) : Fits true depth spec := by
  induction depth using Nat.strong_induction_on generalizing s rest spec with
  | _ depth ih =>
    cases hlist : tupleList? s with
    | some s' =>
      obtain ⟨components, after, hcomponents, read, hsizes, rfl⟩ := (typeSpec_tuple_iff hlist).mp h
      exact fits_tuple hcomponents (fun d s c rest hd hc => ih d hd hc)
        (arePositive_of_sizes hsizes)
    | none =>
      obtain ⟨root, after, hroot, read, hsizes, rfl⟩ := (typeSpec_root_iff hlist).mp h
      exact .root (isRootName_of_rootName hroot) (arePositive_of_sizes hsizes)

/-! ### What is written -/

namespace TypeSpec

mutual

/-- The text of a type with all its lists in parentheses. -/
def written : TypeSpec → List Char
  | root name sizes => name.toList ++ (sizesText sizes).toList
  | tuple components sizes => '(' :: (writtenAll components ++ ')' :: (sizesText sizes).toList)

def writtenAll : List TypeSpec → List Char
  | [] => []
  | [c] => c.written
  | c :: d :: cs => c.written ++ ',' :: writtenAll (d :: cs)

end

end TypeSpec

open TypeSpec

/-- The digits between array brackets. -/
def sizeDigits (size : Option UInt64) : List Char :=
  size.elim [] fun n => Nat.toDigits 10 n.toNat

lemma toList_sizesText_cons (size : Option UInt64) (sizes : List (Option UInt64)) :
    (sizesText (size :: sizes)).toList =
      '[' :: (sizeDigits size ++ ']' :: (sizesText sizes).toList) := by
  cases size <;> simp [sizesText, sizeDigits]

lemma isDigit_of_mem_sizeDigits {size : Option UInt64} {c : Char} (h : c ∈ sizeDigits size) :
    c.isDigit = true := by
  cases size with
  | none => simp [sizeDigits] at h
  | some n => exact isDigit_of_mem_toDigits h

lemma size?_sizeDigits {size : Option UInt64} (h : size ≠ some 0) :
    size? (sizeDigits size) = some size := by
  cases size with
  | none => rfl
  | some n => exact size?_toDigits fun hn => h (congrArg some hn)

/-- The text after a type within a list: a comma, the closing parenthesis, or nothing. -/
def EndsType (rest : List Char) : Prop :=
  ∀ c ∈ rest.head?, c = ',' ∨ c = ')'

lemma endsType_cons {c : Char} (hc : c = ',' ∨ c = ')') (rest : List Char) :
    EndsType (c :: rest) := by
  rintro _ ⟨⟩
  exact hc

lemma sizes_append {ss : List (Option UInt64)} (hss : ArePositive ss) {rest : List Char}
    (hrest : EndsType rest) : sizes ((sizesText ss).toList ++ rest) = some (ss, rest) := by
  induction ss with
  | nil =>
    refine sizes.eq_2 _ ?_
    rintro after rfl
    simpa using hrest '[' rfl
  | cons size ss ih =>
    obtain ⟨hsize, hss⟩ := List.forall_mem_cons.mp hss
    have hdigits : ∀ c ∈ sizeDigits size, c.isDigit = true := fun c => isDigit_of_mem_sizeDigits
    have hdrop :
        ∀ after, (sizeDigits size ++ ']' :: after).dropWhile Char.isDigit = ']' :: after := by
      intro after
      rw [List.dropWhile_append_of_pos hdigits, List.dropWhile_cons_of_neg (by decide)]
    have htake :
        ∀ after, (sizeDigits size ++ ']' :: after).takeWhile Char.isDigit = sizeDigits size := by
      intro after
      rw [List.takeWhile_append_of_pos hdigits, List.takeWhile_cons_of_neg (by decide),
        List.append_nil]
    rw [toList_sizesText_cons, List.cons_append, List.append_assoc, List.cons_append, sizes]
    split
    · next after hclose =>
      obtain ⟨-, rfl⟩ := List.cons.inj ((hdrop _).symm.trans hclose)
      rw [htake, size?_sizeDigits hsize, ih hss]
      rfl
    · next hclose => exact absurd (hdrop _) (hclose _)

/-- Between two types stands a comma, so there is about one type for each character at most. -/
lemma length_le_length_writtenAll (specs : List TypeSpec) :
    specs.length ≤ (writtenAll specs).length + 1 := by
  induction specs with
  | nil => simp
  | cons c specs ih =>
    cases specs with
    | nil => simp
    | cons d specs =>
      rw [List.length_cons] at ih
      simp only [writtenAll, List.length_append, List.length_cons]
      omega

/-- The text starts like a type: not with a blank, and not with the end of a list. -/
def StartsType (s : List Char) : Prop :=
  ∃ c cs, s = c :: cs ∧ c ≠ ' ' ∧ c ≠ '\t' ∧ c ≠ ')'

lemma startsType_written {hasEmpty : Bool} {depth : Nat} {spec : TypeSpec}
    (h : Fits hasEmpty depth spec) : StartsType spec.written := by
  cases h with
  | @root _ name sizes hname _ =>
    obtain ⟨c, cs, hchars, hstart⟩ := hname.exists_toList
    refine ⟨c, cs ++ (sizesText sizes).toList, by rw [written, hchars, List.cons_append],
      ?_, ?_, ?_⟩
    all_goals
      rintro rfl
      exact absurd hstart (by decide)
  | empty _ _ | tuple _ _ _ => exact ⟨_, _, rfl, by decide, by decide, by decide⟩

lemma StartsType.append {s : List Char} (h : StartsType s) (rest : List Char) :
    StartsType (s ++ rest) := by
  obtain ⟨c, cs, rfl, hc⟩ := h
  exact ⟨c, cs ++ rest, rfl, hc⟩

lemma StartsType.writtenAll {specs : List TypeSpec} (hne : specs ≠ [])
    (hstarts : ∀ spec ∈ specs, StartsType spec.written) : StartsType (writtenAll specs) := by
  match specs with
  | [] => exact absurd rfl hne
  | [spec] => exact hstarts spec List.mem_cons_self
  | c :: d :: specs => exact (hstarts c List.mem_cons_self).append _

lemma StartsType.skipBlanks {s : List Char} (h : StartsType s) : skipBlanks s = s := by
  obtain ⟨c, cs, rfl, hspace, htab, -⟩ := h
  rw [Signature.skipBlanks, List.dropWhile_cons_of_neg]
  simp [hspace, htab]

lemma StartsType.ne_close {s : List Char} (h : StartsType s) (rest : List Char) :
    s ≠ ')' :: rest := by
  obtain ⟨c, cs, rfl, -, -, hclose⟩ := h
  exact fun heq => hclose (List.cons.inj heq).1

section

variable {item : Parser TypeSpec} {specs : List TypeSpec}

lemma items_writtenAll (hne : specs ≠ []) (hstarts : ∀ spec ∈ specs, StartsType spec.written)
    (hitem : ∀ spec ∈ specs, ∀ rest, EndsType rest →
      item (spec.written ++ rest) = some (spec, rest))
    {fuel : Nat} (hfuel : specs.length ≤ fuel) (rest : List Char) :
    items item fuel (writtenAll specs ++ ')' :: rest) = some (specs, rest) := by
  induction fuel generalizing specs with
  | zero => exact absurd (List.length_eq_zero_iff.mp (Nat.le_zero.mp hfuel)) hne
  | succ fuel ih =>
    match specs with
    | [] => exact absurd rfl hne
    | [spec] =>
      rw [writtenAll, items, hitem spec List.mem_cons_self _ (endsType_cons (.inr rfl) rest)]
      rfl
    | c :: d :: specs =>
      obtain ⟨hc, hspecs⟩ := List.forall_mem_cons.mp hitem
      obtain ⟨-, hstarts⟩ := List.forall_mem_cons.mp hstarts
      have hmore := ih (List.cons_ne_nil d specs) hstarts hspecs (Nat.le_of_succ_le_succ hfuel)
      have hstart := (StartsType.writtenAll (List.cons_ne_nil d specs) hstarts).append (')' :: rest)
      rw [writtenAll, items, List.append_assoc, List.cons_append, hc _ (endsType_cons (.inl rfl) _)]
      simp only [Option.bind_eq_bind, Option.bind_some, hstart.skipBlanks]
      split
      · exact absurd ‹_› (hstart.ne_close _)
      · rw [hmore]
        rfl

/-- A list is read with its comma after each type but the last. -/
lemma list_writtenAll (hne : specs ≠ []) (hstarts : ∀ spec ∈ specs, StartsType spec.written)
    (hitem : ∀ spec ∈ specs, ∀ rest, EndsType rest →
      item (spec.written ++ rest) = some (spec, rest))
    (rest : List Char) :
    list item ('(' :: (writtenAll specs ++ ')' :: rest)) = some (specs, rest) := by
  have hstart := (StartsType.writtenAll hne hstarts).append (')' :: rest)
  have hfuel := length_le_length_writtenAll specs
  rw [list, hstart.skipBlanks]
  split
  · exact absurd ‹_› (hstart.ne_close _)
  · refine items_writtenAll hne hstarts hitem ?_ rest
    rw [List.length_append, List.length_cons]
    omega

end

/-- After the name of an elementary type stands an array bracket, or the type ends. -/
lemma head?_sizesText_append (sizes : List (Option UInt64)) {rest : List Char}
    (hrest : EndsType rest) :
    ∀ c ∈ ((sizesText sizes).toList ++ rest).head?, isNameRest c = false ∧ c ≠ '.' ∧ c ≠ '(' := by
  cases sizes with
  | nil =>
    intro c hc
    rcases hrest c hc with rfl | rfl
    all_goals decide
  | cons size sizes =>
    rw [toList_sizesText_cons]
    rintro _ ⟨⟩
    decide

/-- A name is no tuple, even if it is the word that may stand before one. -/
lemma tupleList?_name {name : String} (hname : IsName name) {rest : List Char}
    (hrest : EndsName rest) (hopen : ∀ c ∈ rest.head?, c ≠ '(') :
    tupleList? (name.toList ++ rest) = none := by
  rw [tupleList?.eq_def]
  split
  · next after heq =>
    have hread := name_append hname hrest
    rw [heq] at hread
    cases hread
  · rw [Option.map_eq_none_iff, Option.eq_none_iff_forall_ne_some]
    intro after hword
    have hends : EndsName ('(' :: after) := by
      rintro _ ⟨⟩
      decide
    -- The word itself is a name, so the name would be this word, with a parenthesis after it.
    have htuple : IsName "tuple" := by decide +kernel
    have heq : name.toList ++ rest = "tuple".toList ++ '(' :: after :=
      (word?_eq_some_iff.mp hword).trans rfl
    obtain rfl := rest_eq_of_name_append hname htuple hrest hends heq
    exact hopen '(' rfl rfl

/-- Every type within the depth that is allowed is read back from its text. -/
theorem typeSpec_written {hasEmpty : Bool} {depth : Nat} {spec : TypeSpec}
    (h : Fits hasEmpty depth spec) {rest : List Char} (hrest : EndsType rest) :
    typeSpec depth (spec.written ++ rest) = some (spec, rest) := by
  -- Each component is followed by a comma or by the end of its list, so the hypothesis is about any
  -- such rest.
  induction h generalizing rest with
  | @root depth name sizes hname hsizes =>
    have hafter := head?_sizesText_append sizes hrest
    have hends : EndsName ((sizesText sizes).toList ++ rest) := fun c hc => (hafter c hc).1
    have hroot := rootName_append hname hends fun c hc => (hafter c hc).2.1
    rw [written, List.append_assoc,
      typeSpec_root_iff (tupleList?_name hname.toIsName hends fun c hc => (hafter c hc).2.2)]
    exact ⟨name, _, hroot, sizes, sizes_append hsizes hrest, rfl⟩
  | @empty depth sizes hempty hsizes =>
    rw [written, List.cons_append, typeSpec_tuple_iff rfl]
    exact ⟨[], _, rfl, sizes, sizes_append hsizes hrest, rfl⟩
  | @tuple depth components sizes hne hcomponents hsizes ih =>
    rw [written, List.cons_append, List.append_assoc, List.cons_append, typeSpec_tuple_iff rfl]
    refine ⟨components, _, list_writtenAll hne ?_ ?_ _, sizes, sizes_append hsizes hrest, rfl⟩
    · exact fun c hc => startsType_written (hcomponents c hc)
    · exact fun c hc rest hrest => ih c hc hrest

/-! ### Whole texts -/

lemma Fits.mono {hasEmpty : Bool} {depth depth' : Nat} {spec : TypeSpec}
    (h : Fits hasEmpty depth spec) (hle : depth ≤ depth') : Fits hasEmpty depth' spec := by
  induction h generalizing depth' with
  | root hname hsizes => exact .root hname hsizes
  | empty hempty hsizes => exact .empty hempty hsizes
  | tuple hne _ hsizes ih =>
    cases depth' with
    | zero => exact absurd hle (Nat.not_succ_le_zero _)
    | succ depth' => exact .tuple hne (fun c hc => ih c hc (Nat.le_of_succ_le_succ hle)) hsizes

lemma isBlank_of_mem_sizesText {sizes : List (Option UInt64)} :
    ∀ c ∈ (sizesText sizes).toList, Text.isBlank c = false := by
  induction sizes with
  | nil => simp [sizesText]
  | cons size sizes ih =>
    simp only [toList_sizesText_cons, List.forall_mem_cons, List.forall_mem_append]
    refine ⟨rfl, fun c hc => isBlank_of_isNameRest ?_, rfl, ih⟩
    rw [isNameRest, isDigit_of_mem_sizeDigits hc, Bool.or_true]

lemma forall_mem_writtenAll {p : Char → Prop} (hcomma : p ',') {specs : List TypeSpec}
    (h : ∀ spec ∈ specs, ∀ c ∈ spec.written, p c) : ∀ c ∈ writtenAll specs, p c := by
  match specs with
  | [] => exact List.forall_mem_nil _
  | [spec] => exact h spec List.mem_cons_self
  | c :: d :: specs =>
    obtain ⟨hc, hspecs⟩ := List.forall_mem_cons.mp h
    rw [writtenAll, List.forall_mem_append, List.forall_mem_cons]
    exact ⟨hc, hcomma, forall_mem_writtenAll hcomma hspecs⟩

/-- There are no blanks within a type. -/
lemma isBlank_of_mem_written {hasEmpty : Bool} {depth : Nat} {spec : TypeSpec}
    (h : Fits hasEmpty depth spec) : ∀ c ∈ spec.written, Text.isBlank c = false := by
  induction h with
  | root hname _ =>
    rw [written, List.forall_mem_append]
    exact ⟨fun c hc => isBlank_of_isNameRest (hname.isNameRest c hc), isBlank_of_mem_sizesText⟩
  | empty _ _ =>
    simp only [written, writtenAll, List.nil_append, List.forall_mem_cons]
    exact ⟨rfl, rfl, isBlank_of_mem_sizesText⟩
  | tuple _ _ _ ih =>
    simp only [written, List.forall_mem_cons, List.forall_mem_append]
    have hcomponents := forall_mem_writtenAll (p := fun c => Text.isBlank c = false) rfl ih
    exact ⟨rfl, hcomponents, rfl, isBlank_of_mem_sizesText⟩

lemma fits_of_wholeType {s : List Char} {spec : TypeSpec} (h : wholeType s = some spec) :
    Fits true maxDepth spec := by
  rw [wholeType] at h
  split at h
  · next heq =>
    obtain rfl := Option.some.inj h
    exact fits_of_typeSpec heq
  · cases h

lemma wholeType_written {hasEmpty : Bool} {spec : TypeSpec} (h : Fits hasEmpty maxDepth spec) :
    wholeType (Text.trim spec.written) = some spec := by
  have hblank := isBlank_of_mem_written h
  have hread : typeSpec maxDepth (spec.written ++ []) = some (spec, []) := typeSpec_written h nofun
  rw [List.append_nil] at hread
  rw [Text.trim_eq_self (fun c hc => hblank c (List.mem_of_mem_head? hc))
    (fun c hc => hblank c (List.mem_of_mem_getLast? hc)), wholeType, hread]

end ContractCalls.Signature
