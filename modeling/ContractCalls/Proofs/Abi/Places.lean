import ContractCalls.Proofs.Abi.Layout

/-!
# Where the fields stand in a layout

The places that the head and the tail of a layout give to the fields: a static field stands behind
the heads of the fields before it, and a dynamic one fills the bytes from the offset in its head to
the next such offset. The places can be read from the bytes alone, and there is just one byte string
that has the fields in their places.
-/

namespace ContractCalls.Abi

/-! ### Places -/

/-- The number that the word at a place in the data holds. -/
def wordAt (data : Bytes) (place : Nat) : Nat :=
  Bytes.toNat (data.extract place (place + 32))

/-- The offset of the first dynamic field, where the heads of the fields start at `head`. If no
field is dynamic it is the end of the data. -/
def nextOffset (data : Bytes) : (head : Nat) → List Field → Nat
  | _, [] => data.length
  | head, f :: fs => if f.dynamic then wordAt data head else nextOffset data (head + f.headSize) fs

/-- The fields stand in the data as a head and a tail, and nothing else does. The head is as long as
the heads of the fields together, and the tail starts where it ends. A static field fills its room
in the head. The head of a dynamic field is an offset, and the field fills the bytes from there to
the next offset. -/
structure HasLayout (fs : List Field) (data : Bytes) : Prop where
  head_le : headLength fs ≤ data.length
  firstOffset_eq : nextOffset data 0 fs = headLength fs
  length_static : ∀ f ∈ fs, f.dynamic = false → f.body.length = f.headSize
  length_dynamic : ∀ f ∈ fs, f.dynamic = true → f.headSize = 32
  static_eq : ∀ before f after, fs = before ++ f :: after → f.dynamic = false →
    data.extract (headLength before) (headLength before + f.headSize) = f.body
  offset_lt : ∀ before f after, fs = before ++ f :: after → f.dynamic = true →
    wordAt data (headLength before) < nextOffset data (headLength before + f.headSize) after
  dynamic_eq : ∀ before f after, fs = before ++ f :: after → f.dynamic = true →
    data.extract (wordAt data (headLength before))
      (nextOffset data (headLength before + f.headSize) after) = f.body

/-! ### Parts of a layout -/

lemma headLength_append (as bs : List Field) :
    headLength (as ++ bs) = headLength as + headLength bs := by
  induction as with
  | nil => rw [List.nil_append, headLength, Nat.zero_add]
  | cons a as ih => rw [List.cons_append, headLength, headLength, ih, Nat.add_assoc]

/-- The head of the next field starts where the room of a field ends. -/
lemma headLength_concat (before : List Field) (f : Field) :
    headLength (before ++ [f]) = headLength before + f.headSize := by
  rw [headLength_append, headLength, headLength, Nat.add_zero]

lemma layTail_append (as bs : List Field) : layTail (as ++ bs) = layTail as ++ layTail bs := by
  induction as with
  | nil => rfl
  | cons a as ih =>
    rw [List.cons_append, layTail, layTail, ih]
    split
    · rw [List.append_assoc]
    · rfl

/-- The offsets in a head go on where the tails of the fields before end. -/
lemma layHead_append (offset : Nat) (as bs : List Field) :
    layHead offset (as ++ bs) = layHead offset as ++ layHead (offset + (layTail as).length) bs := by
  induction as generalizing offset with
  | nil => rfl
  | cons a as ih =>
    rw [List.cons_append, layHead, layHead, layTail]
    by_cases hdyn : a.dynamic = true
    · simp only [hdyn, if_true, ih, List.append_assoc, List.length_append, Nat.add_assoc]
    · simp only [hdyn, Bool.false_eq_true, if_false, ih, List.append_assoc]

/-- What stands between two other parts of the data is cut out by its place. -/
lemma extract_middle {a b c : Bytes} {start stop : Nat} (hstart : a.length = start)
    (hstop : start + b.length = stop) : (a ++ (b ++ c)).extract start stop = b := by
  rw [List.extract_eq_take_drop, List.drop_left' hstart]
  exact List.take_left' (by omega)

section

variable {before after : List Field} {f : Field}

/-- The head of a layout from one field on. -/
lemma layOut_eq_head (before after : List Field) :
    layOut (before ++ after) = layHead (headLength (before ++ after)) before ++
      (layHead (headLength (before ++ after) + (layTail before).length) after ++
        layTail (before ++ after)) := by
  rw [layOut, layHead_append, List.append_assoc]

/-- The tail of a layout from one field on. -/
lemma layOut_eq_tail (before after : List Field) :
    layOut (before ++ after) = (layHead (headLength (before ++ after)) (before ++ after) ++
      layTail before) ++ layTail after := by
  rw [layOut, layTail_append, List.append_assoc]

/-- A static field fills its room in the head. -/
lemma extract_layOut_of_static (hsized : ∀ g ∈ before ++ f :: after, g.IsSized)
    (hstatic : f.dynamic = false) :
    (layOut (before ++ f :: after)).extract (headLength before) (headLength before + f.headSize) =
      f.body := by
  rw [List.forall_mem_append, List.forall_mem_cons] at hsized
  obtain ⟨hbefore, hf, -⟩ := hsized
  rw [layOut_eq_head, layHead, if_neg (Bool.eq_false_iff.mp hstatic), List.append_assoc]
  exact extract_middle (length_layHead hbefore _) (by rw [hf.length_body hstatic])

/-- The head of a dynamic field is an offset behind all heads and the tails before it. -/
lemma wordAt_layOut (hsized : ∀ g ∈ before ++ f :: after, g.IsSized) (hdyn : f.dynamic = true)
    (hlt : headLength (before ++ f :: after) + (layTail before).length < Size.limit) :
    wordAt (layOut (before ++ f :: after)) (headLength before) =
      headLength (before ++ f :: after) + (layTail before).length := by
  rw [List.forall_mem_append] at hsized
  have hword :
      (layOut (before ++ f :: after)).extract (headLength before) (headLength before + 32) =
      Bytes.ofNat 32 (headLength (before ++ f :: after) + (layTail before).length) := by
    rw [layOut_eq_head, layHead, if_pos hdyn, List.append_assoc, wrap_of_lt hlt]
    exact extract_middle (length_layHead hsized.1 _) (by rw [Bytes.length_ofNat])
  rw [wordAt, hword, Bytes.toNat_ofNat, Nat.mod_eq_of_lt (hlt.trans (by decide))]

/-- Wherever the tails before a field end, the next dynamic field starts. -/
lemma nextOffset_layOut (before after : List Field) (hsized : ∀ g ∈ before ++ after, g.IsSized)
    (hlt : (layOut (before ++ after)).length < Size.limit) :
    nextOffset (layOut (before ++ after)) (headLength before) after =
      headLength (before ++ after) + (layTail before).length := by
  induction after generalizing before with
  | nil =>
    rw [nextOffset, List.append_nil, layOut, List.length_append]
    rw [List.append_nil] at hsized
    rw [length_layHead hsized]
  | cons f after ih =>
    rw [nextOffset]
    by_cases hdyn : f.dynamic = true
    · rw [if_pos hdyn]
      refine wordAt_layOut hsized hdyn (lt_of_le_of_lt ?_ hlt)
      rw [layOut_eq_tail, List.length_append, List.length_append, length_layHead hsized]
      exact Nat.le_add_right _ _
    · rw [if_neg hdyn]
      have hsplit : before ++ f :: after = before ++ [f] ++ after := by simp
      have htail : layTail (before ++ [f]) = layTail before := by
        rw [layTail_append, layTail, if_neg hdyn, layTail, List.append_nil]
      rw [hsplit] at hsized hlt ⊢
      rw [← headLength_concat, ih _ hsized hlt, htail]

/-- The field after a dynamic one starts behind its body. -/
lemma nextOffset_layOut_of_dynamic (hsized : ∀ g ∈ before ++ f :: after, g.IsSized)
    (hdyn : f.dynamic = true) (hlt : (layOut (before ++ f :: after)).length < Size.limit) :
    nextOffset (layOut (before ++ f :: after)) (headLength before + f.headSize) after =
      headLength (before ++ f :: after) + (layTail before).length + f.body.length := by
  have hsplit : before ++ f :: after = before ++ [f] ++ after := by simp
  have htail : (layTail (before ++ [f])).length = (layTail before).length + f.body.length := by
    rw [layTail_append, layTail, if_pos hdyn, layTail, List.append_nil, List.length_append]
  rw [hsplit] at hsized hlt ⊢
  rw [← headLength_concat, nextOffset_layOut _ after hsized hlt, htail, Nat.add_assoc]

/-- A dynamic field fills the bytes from its offset to the next one. -/
lemma extract_layOut_of_dynamic (hsized : ∀ g ∈ before ++ f :: after, g.IsSized)
    (hdyn : f.dynamic = true) {start stop : Nat}
    (hstart : start = headLength (before ++ f :: after) + (layTail before).length)
    (hstop : stop = start + f.body.length) :
    (layOut (before ++ f :: after)).extract start stop = f.body := by
  rw [layOut_eq_tail, layTail, if_pos hdyn]
  refine extract_middle ?_ hstop.symm
  rw [List.length_append, length_layHead hsized, hstart]

end

/-- The layout has its fields in their places, if no dynamic field is empty and all offsets are
sizes. -/
theorem hasLayout_layOut {fs : List Field} (hsized : ∀ f ∈ fs, f.IsSized)
    (hbody : ∀ f ∈ fs, f.dynamic = true → f.body ≠ []) (hlt : (layOut fs).length < Size.limit) :
    HasLayout fs (layOut fs) := by
  have hoffset : ∀ before f after, fs = before ++ f :: after →
      headLength fs + (layTail before).length < Size.limit := by
    rintro before f after rfl
    refine lt_of_le_of_lt ?_ hlt
    rw [layOut_eq_tail, List.length_append, List.length_append, length_layHead hsized]
    exact Nat.le_add_right _ _
  constructor
  case head_le => exact headLength_le_length_layOut hsized
  case firstOffset_eq => exact nextOffset_layOut [] fs hsized hlt
  case length_static =>
    intro f hf hstatic
    exact (hsized f hf).length_body hstatic
  case length_dynamic =>
    intro f hf hdyn
    exact (hsized f hf).headSize_eq hdyn
  case static_eq =>
    rintro before f after rfl hstatic
    exact extract_layOut_of_static hsized hstatic
  case offset_lt =>
    intro before f after heq hdyn
    have hoffset := hoffset before f after heq
    subst heq
    have hpos := List.length_pos_of_ne_nil (hbody f (by simp) hdyn)
    rw [wordAt_layOut hsized hdyn hoffset, nextOffset_layOut_of_dynamic hsized hdyn hlt]
    omega
  case dynamic_eq =>
    intro before f after heq hdyn
    have hoffset := hoffset before f after heq
    subst heq
    have hword := wordAt_layOut hsized hdyn hoffset
    refine extract_layOut_of_dynamic hsized hdyn hword ?_
    rw [nextOffset_layOut_of_dynamic hsized hdyn hlt, hword]

/-! ### Only the layout has its fields in their places -/

lemma extract_append_extract {data : Bytes} {start middle stop : Nat} (hstart : start ≤ middle)
    (hstop : middle ≤ stop) :
    data.extract start middle ++ data.extract middle stop = data.extract start stop := by
  have hlen : stop - start = (middle - start) + (stop - middle) := by omega
  have hdrop : data.drop middle = (data.drop start).drop (middle - start) := by
    rw [List.drop_drop, Nat.add_sub_cancel' hstart]
  rw [List.extract_eq_take_drop, List.extract_eq_take_drop, List.extract_eq_take_drop, hlen,
    List.take_add, hdrop]

namespace HasLayout

variable {fs before after : List Field} {f : Field} {data : Bytes}

/-- The offsets lie within the data. -/
lemma nextOffset_le (h : HasLayout fs data) (before after : List Field)
    (hfs : fs = before ++ after) : nextOffset data (headLength before) after ≤ data.length := by
  induction after generalizing before with
  | nil => exact le_rfl
  | cons f after ih =>
    have hrest := ih (before ++ [f]) (by rw [hfs]; simp)
    rw [headLength_concat] at hrest
    rw [nextOffset]
    by_cases hdyn : f.dynamic = true
    · rw [if_pos hdyn]
      exact (h.offset_lt before f after hfs hdyn).le.trans hrest
    · rw [if_neg hdyn]
      exact hrest

/-- A field is a part of the data. -/
lemma length_body_le (h : HasLayout fs data) : ∀ f ∈ fs, f.body.length ≤ data.length := by
  have hcut (start stop : Nat) : (data.extract start stop).length ≤ data.length := by
    rw [List.extract_eq_take_drop, List.length_take, List.length_drop]
    omega
  intro f hf
  obtain ⟨before, after, hfs⟩ := List.append_of_mem hf
  cases hdyn : f.dynamic with
  | true => exact h.dynamic_eq before f after hfs hdyn ▸ hcut _ _
  | false => exact h.static_eq before f after hfs hdyn ▸ hcut _ _

/-- A dynamic field ends at the next offset. -/
lemma wordAt_add_length (h : HasLayout fs data) (hfs : fs = before ++ f :: after)
    (hdyn : f.dynamic = true) : wordAt data (headLength before) + f.body.length =
      nextOffset data (headLength before + f.headSize) after := by
  have hlt := h.offset_lt before f after hfs hdyn
  have hle := h.nextOffset_le (before ++ [f]) after (by rw [hfs]; simp)
  rw [headLength_concat] at hle
  rw [← h.dynamic_eq before f after hfs hdyn, List.extract_eq_take_drop, List.length_take,
    List.length_drop]
  omega

/-- The bytes in the room of a dynamic field are its offset. -/
lemma extract_word (h : HasLayout fs data) (hfs : fs = before ++ f :: after)
    (hdyn : f.dynamic = true) : data.extract (headLength before) (headLength before + f.headSize) =
      Bytes.ofNat 32 (wordAt data (headLength before)) := by
  have hsize := h.length_dynamic f (by rw [hfs]; simp) hdyn
  have hle : headLength before + 32 ≤ data.length := by
    have hhead := h.head_le
    rw [hfs, headLength_append, headLength, hsize] at hhead
    omega
  have hlen : (data.extract (headLength before) (headLength before + 32)).length = 32 := by
    rw [List.extract_eq_take_drop, List.length_take, List.length_drop]
    omega
  have hword := Bytes.ofNat_toNat (data.extract (headLength before) (headLength before + 32))
  rw [hlen] at hword
  rw [hsize, wordAt, hword]

/-- From any field on, the head is the one that is written. -/
lemma extract_head (h : HasLayout fs data) (hlt : data.length < Size.limit)
    (before after : List Field) (hfs : fs = before ++ after) :
    data.extract (headLength before) (headLength fs) =
      layHead (nextOffset data (headLength before) after) after := by
  induction after generalizing before with
  | nil =>
    rw [hfs, List.append_nil, List.extract_eq_take_drop, Nat.sub_self, List.take_zero, layHead]
  | cons f after ih =>
    have hrest := ih (before ++ [f]) (by rw [hfs]; simp)
    have hle : headLength before + f.headSize ≤ headLength fs := by
      rw [hfs, headLength_append, headLength]
      omega
    rw [headLength_concat] at hrest
    rw [← extract_append_extract (Nat.le_add_right _ _) hle, hrest, layHead, nextOffset]
    by_cases hdyn : f.dynamic = true
    · simp only [hdyn, if_true]
      have hle := h.nextOffset_le before (f :: after) hfs
      rw [nextOffset, if_pos hdyn] at hle
      rw [h.extract_word hfs hdyn, h.wordAt_add_length hfs hdyn, wrap_of_lt (hle.trans_lt hlt)]
    · simp only [hdyn, Bool.false_eq_true, if_false]
      rw [h.static_eq before f after hfs (Bool.eq_false_of_not_eq_true hdyn)]

/-- From any field on, the tail is the one that is written. -/
lemma drop_nextOffset (h : HasLayout fs data) (before after : List Field)
    (hfs : fs = before ++ after) :
    data.drop (nextOffset data (headLength before) after) = layTail after := by
  induction after generalizing before with
  | nil => exact List.drop_length
  | cons f after ih =>
    have hrest := ih (before ++ [f]) (by rw [hfs]; simp)
    rw [headLength_concat] at hrest
    rw [nextOffset, layTail]
    by_cases hdyn : f.dynamic = true
    · have hlt := h.offset_lt before f after hfs hdyn
      have hbody := h.dynamic_eq before f after hfs hdyn
      rw [if_pos hdyn, if_pos hdyn, ← hrest, ← hbody, List.extract_eq_take_drop]
      have hnext : data.drop (nextOffset data (headLength before + f.headSize) after) =
          (data.drop (wordAt data (headLength before))).drop
            (nextOffset data (headLength before + f.headSize) after -
              wordAt data (headLength before)) := by
        rw [List.drop_drop, Nat.add_sub_cancel' hlt.le]
      rw [hnext, List.take_append_drop]
    · rw [if_neg hdyn, if_neg hdyn, hrest]

/-- There is one byte string only that has the fields in their places. -/
theorem eq_layOut (h : HasLayout fs data) (hlt : data.length < Size.limit) : data = layOut fs := by
  have hhead := h.extract_head hlt [] fs rfl
  have htail := h.drop_nextOffset [] fs rfl
  rw [headLength, h.firstOffset_eq, List.extract_eq_take_drop, List.drop_zero,
    Nat.sub_zero] at hhead
  rw [headLength, h.firstOffset_eq] at htail
  rw [layOut, ← hhead, ← htail, List.take_append_drop]

end HasLayout

end ContractCalls.Abi
