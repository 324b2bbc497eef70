import ContractCalls.Abi.Layout
import ContractCalls.Proofs.Bytes

/-!
# Reading a layout

The head of a layout has the length that the sizes of its fields announce, and each field stands
where the reader looks for it: a static field in its place in the head, a dynamic one at the offset
that its word in the head gives. So fields that are read one by one are read from their layout,
whatever bytes follow it.
-/

namespace ContractCalls.Abi

/-! ### Lengths -/

/-- A static field fills its room in the head, a dynamic one has a word there. -/
structure Field.IsSized (f : Field) : Prop where
  length_body : f.dynamic = false → f.body.length = f.headSize
  headSize_eq : f.dynamic = true → f.headSize = 32

lemma length_layHead {fs : List Field} (hfs : ∀ f ∈ fs, f.IsSized) (offset : Nat) :
    (layHead offset fs).length = headLength fs := by
  induction fs generalizing offset with
  | nil => rfl
  | cons f fs ih =>
    rw [List.forall_mem_cons] at hfs
    obtain ⟨hf, hfs⟩ := hfs
    rw [layHead, headLength]
    split
    · next hdyn => rw [List.length_append, Bytes.length_ofNat, ih hfs, hf.headSize_eq hdyn]
    · next hdyn =>
      rw [List.length_append, ih hfs, hf.length_body (Bool.eq_false_of_not_eq_true hdyn)]

lemma headLength_le_length_layOut {fs : List Field} (hfs : ∀ f ∈ fs, f.IsSized) :
    headLength fs ≤ (layOut fs).length := by
  rw [layOut, List.length_append, length_layHead hfs]
  exact Nat.le_add_right _ _

lemma layHead_of_static {fs : List Field} (hstatic : ∀ f ∈ fs, f.dynamic = false) (offset : Nat) :
    layHead offset fs = fs.flatMap (·.body) := by
  induction fs with
  | nil => rfl
  | cons f fs ih =>
    rw [List.forall_mem_cons] at hstatic
    rw [layHead, hstatic.1, if_neg Bool.false_ne_true, ih hstatic.2, List.flatMap_cons]

lemma layTail_of_static {fs : List Field} (hstatic : ∀ f ∈ fs, f.dynamic = false) :
    layTail fs = [] := by
  induction fs with
  | nil => rfl
  | cons f fs ih =>
    rw [List.forall_mem_cons] at hstatic
    rw [layTail, hstatic.1, if_neg Bool.false_ne_true, ih hstatic.2]

/-- Static fields are laid out as they are, one after the other. -/
lemma layOut_of_static {fs : List Field} (hstatic : ∀ f ∈ fs, f.dynamic = false) :
    layOut fs = fs.flatMap (·.body) := by
  rw [layOut, layHead_of_static hstatic, layTail_of_static hstatic, List.append_nil]

lemma length_layOut_of_static {fs : List Field} (hfs : ∀ f ∈ fs, f.IsSized)
    (hstatic : ∀ f ∈ fs, f.dynamic = false) : (layOut fs).length = headLength fs := by
  rw [layOut, layTail_of_static hstatic, List.append_nil, length_layHead hfs]

/-! ### Words in front of the data -/

lemma readWord_ofNat (n : Nat) (rest : Bytes) :
    readWord (Bytes.ofNat 32 n ++ rest) 0 = .ok (BitVec.ofNat 256 n) := by
  have hlen : (Bytes.ofNat 32 n).length = 32 := Bytes.length_ofNat 32 n
  rw [readWord, if_pos (by rw [List.length_append, hlen]; omega), List.drop_zero,
    List.take_left' hlen, Bytes.toBitVec_ofNat]

lemma readWord_ofBitVec (word : Word) (rest : Bytes) :
    readWord (Bytes.ofBitVec word ++ rest) 0 = .ok word := by
  rw [Bytes.ofBitVec, readWord_ofNat]
  exact congrArg _ (BitVec.ofNat_toNat 256 word)

/-- Reading at a place is reading at the start of what stands there. -/
lemma readWord_drop (data : Bytes) (offset : Nat) (word : Word) :
    readWord data offset = .ok word ↔ readWord (data.drop offset) 0 = .ok word := by
  simp only [readWord, Except.ite_error_eq_ok_iff, List.length_drop, List.drop_zero]
  exact and_congr_left fun _ => by omega

lemma toNat_ofNat_size {n : Nat} (hn : n < Size.limit) : (BitVec.ofNat 256 n).toNat = n := by
  rw [BitVec.toNat_ofNat, Nat.mod_eq_of_lt]
  exact hn.trans (by decide)

lemma readSize_eq {data : Bytes} {offset n : Nat}
    (hword : readWord data offset = .ok (BitVec.ofNat 256 n)) (hn : n < Size.limit)
    (hle : n ≤ data.length) : readSize data offset = .ok n := by
  rw [readSize, hword]
  simp only [bind, Except.bind, toNat_ofNat_size hn, hn, hle, decide_true, Bool.and_self, if_true]
  rfl

lemma wrap_of_lt {n : Nat} (hn : n < Size.limit) : Size.wrap n = n :=
  Nat.mod_eq_of_lt hn

/-- What lies within data whose length is a size is a size. -/
lemma saturate_of_le {n m : Nat} (hle : n ≤ m) (hm : m < Size.limit) : Size.saturate n = n :=
  Nat.min_eq_left (Nat.le_pred_of_lt (hle.trans_lt hm))

/-! ### Fields -/

variable {α : Type}

/-- Wherever a field stands, it is read from the rest of the data from there on. -/
lemma exists_drop_of_readAt {r : FieldReader α} {data : Bytes} {head : Nat} {v : α}
    (h : r.readAt data head = .ok v) : ∃ k, r.read (data.drop k) = .ok v := by
  rw [FieldReader.readAt] at h
  split at h
  · obtain ⟨offset, -, h⟩ := Except.bind_eq_ok_iff.mp h
    exact ⟨offset, h⟩
  · exact ⟨head, (Except.ite_error_eq_ok_iff.mp h).2⟩

/-- The state of a reader within a layout: `head` is where the heads of the remaining fields stand,
and `offset` where their tails do. -/
structure AtFields (data : Bytes) (head offset : Nat) (fs : List Field) : Prop where
  length_lt : data.length < Size.limit
  head_le : head ≤ data.length
  offset_le : offset ≤ data.length
  drop_head : ∃ rest, data.drop head = layHead offset fs ++ rest
  drop_offset : ∃ rest, data.drop offset = layTail fs ++ rest

namespace AtFields

variable {data : Bytes} {head offset : Nat} {f : Field} {fs : List Field}

/-- A reader that has passed the layout's first field stands at the others. -/
lemma next (h : AtFields data head offset (f :: fs)) (hf : f.IsSized) :
    AtFields data (head + f.headSize)
      (if f.dynamic then offset + f.body.length else offset) fs := by
  obtain ⟨rest, hhead⟩ := h.drop_head
  obtain ⟨rest', htail⟩ := h.drop_offset
  have hheadLen := congrArg List.length hhead
  have htailLen := congrArg List.length htail
  have hle := h.offset_le
  rw [layHead] at hhead hheadLen
  rw [layTail] at htail htailLen
  rw [List.length_append, List.length_drop] at hheadLen htailLen
  cases hdyn : f.dynamic with
  | true =>
    have hsize := hf.headSize_eq hdyn
    simp only [hdyn, if_true, List.append_assoc, List.length_append, Bytes.length_ofNat]
      at hhead htail hheadLen htailLen ⊢
    refine ⟨h.length_lt, by omega, by omega, ⟨rest, ?_⟩, ⟨rest', ?_⟩⟩
    · rw [← List.drop_drop, hhead, hsize, List.drop_left' (Bytes.length_ofNat 32 _)]
    · rw [← List.drop_drop, htail, List.drop_left]
  | false =>
    have hsize := hf.length_body hdyn
    simp only [hdyn, Bool.false_eq_true, if_false, List.append_assoc, List.length_append]
      at hhead htail hheadLen ⊢
    refine ⟨h.length_lt, by have := h.head_le; omega, hle, ⟨rest, ?_⟩, ⟨rest', htail⟩⟩
    rw [← List.drop_drop, hhead, List.drop_left' hsize]

/-- The layout's first field stands at the start of its tail or of its head. -/
lemma exists_drop_eq (h : AtFields data head offset (f :: fs)) :
    ∃ rest, data.drop (if f.dynamic then offset else head) = f.body ++ rest := by
  obtain ⟨rest, hhead⟩ := h.drop_head
  obtain ⟨rest', htail⟩ := h.drop_offset
  rw [layHead] at hhead
  rw [layTail] at htail
  by_cases hdyn : f.dynamic = true
  · rw [if_pos hdyn, List.append_assoc] at htail
    rw [if_pos hdyn]
    exact ⟨_, htail⟩
  · rw [if_neg hdyn, List.append_assoc] at hhead
    rw [if_neg hdyn]
    exact ⟨_, hhead⟩

/-- The reader of the layout's first field finds its bytes with others behind them. -/
lemma readAt_eq (h : AtFields data head offset (f :: fs)) {r : FieldReader α}
    (hr : r.dynamic = f.dynamic) :
    r.readAt data head = r.read (data.drop (if f.dynamic then offset else head)) := by
  rw [FieldReader.readAt, hr]
  by_cases hdyn : f.dynamic = true
  · obtain ⟨rest, hhead⟩ := h.drop_head
    have hoffset := h.offset_le.trans_lt h.length_lt
    rw [layHead, if_pos hdyn, List.append_assoc, wrap_of_lt hoffset] at hhead
    have hword : readWord data head = .ok (BitVec.ofNat 256 offset) := by
      rw [readWord_drop, hhead, readWord_ofNat]
    rw [if_pos hdyn, if_pos hdyn, readSize_eq hword hoffset h.offset_le]
    rfl
  · rw [if_neg hdyn, if_neg hdyn, if_pos h.head_le]

/-- The places that remain after a field are sizes, as the field stands within the data. -/
lemma saturate_eq (h : AtFields data head offset fs) : Size.saturate head = head :=
  saturate_of_le h.head_le h.length_lt

end AtFields

/-- A layout with other bytes behind it is read from its start. -/
lemma atFields_layOut {fs : List Field} (hfs : ∀ f ∈ fs, f.IsSized) {rest : Bytes}
    (hlen : (layOut fs ++ rest).length < Size.limit) :
    AtFields (layOut fs ++ rest) 0 (headLength fs) fs where
  length_lt := hlen
  head_le := Nat.zero_le _
  offset_le := by
    rw [List.length_append]
    exact (headLength_le_length_layOut hfs).trans (Nat.le_add_right _ _)
  drop_head := ⟨layTail fs ++ rest, by rw [List.drop_zero, layOut, List.append_assoc]⟩
  drop_offset := ⟨rest, by
    rw [layOut, List.append_assoc, List.drop_left' (length_layHead hfs _)]⟩

end ContractCalls.Abi
