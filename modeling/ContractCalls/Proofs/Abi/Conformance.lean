import ContractCalls.Proofs.Abi.Encoding
import ContractCalls.Proofs.Abi.Places

/-!
# Encodings as the ABI prescribes them

Which bytes the ABI prescribes for a value, as an inductive relation with one rule for each way in
which a value stands for a type. The components of a composite value have to stand in their places
from its start on, behind the count of an array. What is encoded conforms to it, and fills whole
words.
-/

namespace ContractCalls.Abi

open AbiValue

mutual

/-- The bytes that the ABI prescribes for a value of a type. -/
inductive IsEncoding : AbiValue → AbiType → Bytes → Prop where
  | address (account : Address) :
      IsEncoding (.address account) .address (Bytes.zeros 12 ++ Bytes.ofBitVec account)
  | bool (flag : Bool) : IsEncoding (.bool flag) .bool (Bytes.zeros 31 ++ [if flag then 1 else 0])
  | uint (value : Word) (width bits : Nat) :
      IsEncoding (.uint value width) (.uint bits) (Bytes.ofBitVec value)
  | int (value : Word) (width bits : Nat) :
      IsEncoding (.int value width) (.int bits) (Bytes.ofBitVec value)
  | fixedBytes (word : Word) (length size : Nat) :
      IsEncoding (.fixedBytes word length) (.fixedBytes size) (Bytes.ofBitVec word)
  | bytes (data : Bytes) {padding : Nat} (hpadding : padding < 32)
      (hmod : (data.length + padding) % 32 = 0) :
      IsEncoding (.bytes data) .bytes (Bytes.ofNat 32 data.length ++ (data ++ Bytes.zeros padding))
  | string (text : String) {padding : Nat} (hpadding : padding < 32)
      (hmod : ((Bytes.ofText text).length + padding) % 32 = 0) :
      IsEncoding (.string text) .string
        (Bytes.ofNat 32 (Bytes.ofText text).length ++ (Bytes.ofText text ++ Bytes.zeros padding))
  | array {elems : List AbiValue} {elem : AbiType} {fs : List Field} {data : Bytes}
      (helems : AreEncodings elems (List.replicate elems.length elem) fs)
      (hdata : HasLayout fs data) :
      IsEncoding (.array elems) (.array elem) (Bytes.ofNat 32 elems.length ++ data)
  | fixedArray {elems : List AbiValue} {elem : AbiType} {length : UInt64} {fs : List Field}
      {data : Bytes} (hlength : elems.length = length.toNat)
      (helems : AreEncodings elems (List.replicate elems.length elem) fs)
      (hdata : HasLayout fs data) :
      IsEncoding (.fixedArray elems) (.fixedArray elem length) data
  | tuple {values : List AbiValue} {types : List AbiType} {fs : List Field} {data : Bytes}
      (hvalues : AreEncodings values types fs) (hdata : HasLayout fs data) :
      IsEncoding (.tuple values) (.tuple types) data
  | tupleAsStruct {values : List AbiValue} {types : List AbiType} {fs : List Field} {data : Bytes}
      (name : String) (hvalues : AreEncodings values types fs) (hdata : HasLayout fs data) :
      IsEncoding (.tuple values) (.struct name types) data
  | struct {values : List AbiValue} {types : List AbiType} {fs : List Field} {data : Bytes}
      (given name : String) (hvalues : AreEncodings values types fs) (hdata : HasLayout fs data) :
      IsEncoding (.struct given values) (.struct name types) data

/-- The fields hold the bytes that the ABI prescribes for the values, and have the room of the types
at their places. -/
inductive AreEncodings : List AbiValue → List AbiType → List Field → Prop where
  | nil : AreEncodings [] [] []
  | cons {v : AbiValue} {t : AbiType} {body : Bytes} {vs : List AbiValue} {ts : List AbiType}
      {fs : List Field} (h : IsEncoding v t body) (hs : AreEncodings vs ts fs) :
      AreEncodings (v :: vs) (t :: ts) (⟨t.isDynamic, t.headSize, body⟩ :: fs)

end

/-! ### Words -/

lemma length_layHead_mod {fs : List Field} (hfs : ∀ f ∈ fs, f.body.length % 32 = 0) (offset : Nat) :
    (layHead offset fs).length % 32 = 0 := by
  induction fs generalizing offset with
  | nil => rfl
  | cons f fs ih =>
    rw [List.forall_mem_cons] at hfs
    obtain ⟨hf, hfs⟩ := hfs
    rw [layHead]
    split
    · rw [List.length_append, Bytes.length_ofNat, Nat.add_mod, ih hfs]
    · rw [List.length_append, Nat.add_mod, hf, ih hfs]

lemma length_layTail_mod {fs : List Field} (hfs : ∀ f ∈ fs, f.body.length % 32 = 0) :
    (layTail fs).length % 32 = 0 := by
  induction fs with
  | nil => rfl
  | cons f fs ih =>
    rw [List.forall_mem_cons] at hfs
    obtain ⟨hf, hfs⟩ := hfs
    rw [layTail]
    split
    · rw [List.length_append, Nat.add_mod, hf, ih hfs]
    · exact ih hfs

lemma length_layOut_mod {fs : List Field} (hfs : ∀ f ∈ fs, f.body.length % 32 = 0) :
    (layOut fs).length % 32 = 0 := by
  rw [layOut, List.length_append, Nat.add_mod, length_layHead_mod hfs, length_layTail_mod hfs]

mutual

/-- Every encoding fills whole words. -/
lemma length_encodeValue_mod {v : AbiValue} {t : AbiType} (h : HasType v t) :
    (encodeValue v t).length % 32 = 0 := by
  match h with
  | .address _ | .uint _ _ | .int _ _ | .fixedBytes _ _ => rw [encodeValue, Bytes.length_ofBitVec]
  | .bool _ => rw [encodeValue, Bytes.length_ofNat]
  | .bytes _ | .string _ =>
    rw [encodeValue, List.length_append, Bytes.length_ofNat, Nat.add_mod, Bytes.length_padRight_mod]
  | .array h =>
    rw [encodeValue, elemFields_eq, List.length_append, Bytes.length_ofNat, Nat.add_mod,
      length_layOut_mod (length_fields_mod h)]
  | .fixedArray _ h =>
    rw [encodeValue, elemFields_eq]
    exact length_layOut_mod (length_fields_mod h)
  | .tuple h | .tupleAsStruct _ h | .struct _ _ h =>
    rw [encodeValue]
    exact length_layOut_mod (length_fields_mod h)

lemma length_fields_mod {vs : List AbiValue} {ts : List AbiType} (h : HaveTypes vs ts) :
    ∀ f ∈ fields vs ts, f.body.length % 32 = 0 := by
  match h with
  | .nil => simp [fields]
  | .cons h hs =>
    rw [fields, List.forall_mem_cons]
    exact ⟨length_encodeValue_mod h, length_fields_mod hs⟩

end

/-! ### Dynamic fields -/

/-- A head with an offset is not empty. -/
lemma layHead_ne_nil {fs : List Field} {f : Field} (hf : f ∈ fs) (hdyn : f.dynamic = true)
    (offset : Nat) : layHead offset fs ≠ [] := by
  induction fs generalizing offset with
  | nil => simp at hf
  | cons g fs ih =>
    intro hnil
    rw [layHead] at hnil
    split at hnil
    · have hlen := congrArg List.length (List.append_eq_nil_iff.mp hnil).1
      rw [Bytes.length_ofNat] at hlen
      simp at hlen
    · next hstatic =>
      rcases List.mem_cons.mp hf with rfl | hf
      · exact hstatic hdyn
      · exact ih hf _ (List.append_eq_nil_iff.mp hnil).2

lemma exists_dynamic_field {vs : List AbiValue} {ts : List AbiType} (h : HaveTypes vs ts)
    (hany : AbiType.anyDynamic ts = true) : ∃ f ∈ fields vs ts, f.dynamic = true := by
  induction vs generalizing ts with
  | nil =>
    cases h
    simp [AbiType.anyDynamic] at hany
  | cons v vs ih =>
    cases h with
    | cons _ hs =>
      rw [AbiType.anyDynamic, Bool.or_eq_true] at hany
      rw [fields]
      rcases hany with hdyn | hany
      · exact ⟨_, List.mem_cons_self, hdyn⟩
      · obtain ⟨f, hf, hdyn⟩ := ih hs hany
        exact ⟨f, List.mem_cons_of_mem _ hf, hdyn⟩

lemma layOut_fields_ne_nil {vs : List AbiValue} {ts : List AbiType} (h : HaveTypes vs ts)
    (hany : AbiType.anyDynamic ts = true) : layOut (fields vs ts) ≠ [] := by
  obtain ⟨f, hf, hdyn⟩ := exists_dynamic_field h hany
  intro hnil
  rw [layOut] at hnil
  exact layHead_ne_nil hf hdyn _ (List.append_eq_nil_iff.mp hnil).1

/-- The encoding of a value of a dynamic type is not empty. -/
lemma encodeValue_ne_nil {v : AbiValue} {t : AbiType} (h : HasType v t)
    (hdyn : t.isDynamic = true) : encodeValue v t ≠ [] := by
  cases h with
  | address | bool | uint | int | fixedBytes => simp [AbiType.isDynamic] at hdyn
  | bytes | string | array =>
    intro hnil
    rw [encodeValue] at hnil
    have hlen := congrArg List.length (List.append_eq_nil_iff.mp hnil).1
    rw [Bytes.length_ofNat] at hlen
    simp at hlen
  | @fixedArray elems elem length hlength h =>
    rw [AbiType.isDynamic, Bool.and_eq_true, bne_iff_ne] at hdyn
    obtain ⟨hne, helem⟩ := hdyn
    rw [encodeValue, elemFields_eq]
    refine layOut_fields_ne_nil h ?_
    have hcount : elems.length ≠ 0 := by
      rw [hlength]
      intro hzero
      exact hne (UInt64.toNat_inj.mp hzero)
    obtain ⟨count, hcount⟩ := Nat.exists_eq_succ_of_ne_zero hcount
    rw [hcount, List.replicate_succ, AbiType.anyDynamic, helem, Bool.true_or]
  | tuple h | tupleAsStruct _ h | struct _ _ h =>
    rw [AbiType.isDynamic] at hdyn
    rw [encodeValue]
    exact layOut_fields_ne_nil h hdyn

lemma body_ne_nil_of_mem_fields {vs : List AbiValue} {ts : List AbiType} (h : HaveTypes vs ts) :
    ∀ f ∈ fields vs ts, f.dynamic = true → f.body ≠ [] := by
  induction vs generalizing ts with
  | nil =>
    cases h
    simp [fields]
  | cons v vs ih =>
    cases h with
    | cons h hs =>
      rw [fields, List.forall_mem_cons]
      exact ⟨encodeValue_ne_nil h, ih hs⟩

/-! ### Conformance -/

/-- Every field is part of the layout. -/
lemma length_body_lt {fs : List Field} {n : Nat} (hlt : (layOut fs).length < n) :
    ∀ f ∈ fs, f.body.length < n := by
  intro f hf
  obtain ⟨before, after, rfl⟩ := List.append_of_mem hf
  refine lt_of_le_of_lt ?_ hlt
  by_cases hdyn : f.dynamic = true
  · rw [layOut_eq_tail, layTail, if_pos hdyn]
    simp only [List.length_append]
    omega
  · rw [layOut_eq_head, layHead, if_neg hdyn]
    simp only [List.length_append]
    omega

/-- Values of legal types have their encodings in the places that the head gives them. -/
lemma hasLayout_fields {vs : List AbiValue} {ts : List AbiType} (h : HaveTypes vs ts)
    (hts : ∀ t ∈ ts, t.IsLegal) (hlt : (layOut (fields vs ts)).length < Size.limit) :
    HasLayout (fields vs ts) (layOut (fields vs ts)) := by
  have hsized := isSized_fields h (fun t ht => (hts t ht).headSize?_isSome)
  exact hasLayout_layOut hsized (body_ne_nil_of_mem_fields h) hlt

lemma encodeValue_address (account : Address) :
    encodeValue (.address account) .address = Bytes.zeros 12 ++ Bytes.ofBitVec account := by
  have hlt : account.toNat < 256 ^ 20 := account.isLt
  rw [encodeValue, Bytes.ofBitVec, Bytes.ofBitVec, BitVec.toNat_setWidth,
    Nat.mod_eq_of_lt (account.isLt.trans (by decide))]
  exact Bytes.ofNat_add 12 20 hlt

lemma encodeValue_bool (flag : Bool) :
    encodeValue (.bool flag) .bool = Bytes.zeros 31 ++ [if flag then 1 else 0] := by
  cases flag <;> rfl

mutual

/-- What is encoded for a value is what the ABI prescribes. -/
theorem isEncoding_encodeValue {v : AbiValue} {t : AbiType} (h : HasType v t) (ht : t.IsLegal) :
    (encodeValue v t).length < Size.limit → IsEncoding v t (encodeValue v t) := by
  match h with
  | .address account =>
    intro _
    rw [encodeValue_address]
    exact .address account
  | .bool flag =>
    intro _
    rw [encodeValue_bool]
    exact .bool flag
  | .uint width _ => exact fun _ => .uint _ width _
  | .int width _ => exact fun _ => .int _ width _
  | .fixedBytes word _ => exact fun _ => .fixedBytes word _ _
  | .bytes data =>
    intro _
    have hmod := Bytes.length_padRight_mod data
    rw [Bytes.padRight, List.length_append, Bytes.length_zeros] at hmod
    exact .bytes data (Nat.mod_lt _ (by norm_num)) hmod
  | .string text =>
    intro _
    have hmod := Bytes.length_padRight_mod (Bytes.ofText text)
    rw [Bytes.padRight, List.length_append, Bytes.length_zeros] at hmod
    exact .string text (Nat.mod_lt _ (by norm_num)) hmod
  | @HasType.array elems elem h =>
    intro hlt
    rw [encodeValue, elemFields_eq] at hlt ⊢
    rw [List.length_append] at hlt
    have hts : ∀ u ∈ List.replicate elems.length elem, u.IsLegal :=
      List.forall_mem_replicate.mpr (Or.inr ht.arrayElem)
    have hbody :
        (layOut (fields elems (List.replicate elems.length elem))).length < Size.limit := by
      omega
    exact .array (areEncodings_fields h hts (length_body_lt hbody)) (hasLayout_fields h hts hbody)
  | @HasType.fixedArray elems elem length hlength h =>
    intro hlt
    rw [encodeValue, elemFields_eq] at hlt ⊢
    have hts : ∀ u ∈ List.replicate elems.length elem, u.IsLegal :=
      List.forall_mem_replicate.mpr (Or.inr ht.fixedArrayElem)
    exact .fixedArray hlength (areEncodings_fields h hts (length_body_lt hlt))
      (hasLayout_fields h hts hlt)
  | .tuple h =>
    intro hlt
    rw [encodeValue] at hlt ⊢
    exact .tuple (areEncodings_fields h ht.tupleField (length_body_lt hlt))
      (hasLayout_fields h ht.tupleField hlt)
  | .tupleAsStruct name h =>
    intro hlt
    rw [encodeValue] at hlt ⊢
    exact .tupleAsStruct name
      (areEncodings_fields h ht.structField (length_body_lt hlt))
      (hasLayout_fields h ht.structField hlt)
  | .struct given name h =>
    intro hlt
    rw [encodeValue] at hlt ⊢
    exact .struct given name
      (areEncodings_fields h ht.structField (length_body_lt hlt))
      (hasLayout_fields h ht.structField hlt)

theorem areEncodings_fields {vs : List AbiValue} {ts : List AbiType} (h : HaveTypes vs ts)
    (hts : ∀ t ∈ ts, t.IsLegal) :
    (∀ f ∈ fields vs ts, f.body.length < Size.limit) → AreEncodings vs ts (fields vs ts) := by
  match h with
  | .nil =>
    intro _
    simpa only [fields] using AreEncodings.nil
  | .cons h hs =>
    intro hlt
    rw [List.forall_mem_cons] at hts
    rw [fields, List.forall_mem_cons] at hlt
    rw [fields]
    exact .cons (isEncoding_encodeValue h hts.1 hlt.1) (areEncodings_fields hs hts.2 hlt.2)

end

/-! ### Only the encoding conforms -/

lemma padRight_eq {data : Bytes} {padding : Nat} (hpadding : padding < 32)
    (hmod : (data.length + padding) % 32 = 0) : data ++ Bytes.zeros padding = data.padRight := by
  have heq : padding = (32 - data.length % 32) % 32 := by omega
  rw [Bytes.padRight, heq]

mutual

/-- There is nothing else that the ABI prescribes for a value. -/
theorem eq_encodeValue {v : AbiValue} {t : AbiType} {data : Bytes} (h : IsEncoding v t data) :
    data.length < Size.limit → data = encodeValue v t := by
  match h with
  | .address account => exact fun _ => (encodeValue_address account).symm
  | .bool flag => exact fun _ => (encodeValue_bool flag).symm
  | .uint _ _ _ | .int _ _ _ | .fixedBytes _ _ _ => exact fun _ => by rw [encodeValue]
  | .bytes _ hpadding hmod => exact fun _ => by rw [encodeValue, padRight_eq hpadding hmod]
  | .string _ hpadding hmod => exact fun _ => by rw [encodeValue, padRight_eq hpadding hmod]
  | .array helems hdata =>
    intro hlt
    rw [List.length_append] at hlt
    have hbody := (Nat.le_add_left _ _).trans_lt hlt
    have hfields := eq_fields helems fun f hf => (hdata.length_body_le f hf).trans_lt hbody
    rw [encodeValue, elemFields_eq, ← hfields, hdata.eq_layOut hbody]
  | .fixedArray _ helems hdata =>
    intro hlt
    have hfields := eq_fields helems fun f hf => (hdata.length_body_le f hf).trans_lt hlt
    rw [encodeValue, elemFields_eq, ← hfields, hdata.eq_layOut hlt]
  | .tuple hvalues hdata | .tupleAsStruct _ hvalues hdata | .struct _ _ hvalues hdata =>
    intro hlt
    have hfields := eq_fields hvalues fun f hf => (hdata.length_body_le f hf).trans_lt hlt
    rw [encodeValue, ← hfields, hdata.eq_layOut hlt]

theorem eq_fields {vs : List AbiValue} {ts : List AbiType} {fs : List Field}
    (h : AreEncodings vs ts fs) :
    (∀ f ∈ fs, f.body.length < Size.limit) → fs = fields vs ts := by
  match h with
  | .nil => simp [fields]
  | .cons h hs =>
    intro hlt
    rw [List.forall_mem_cons] at hlt
    rw [fields, ← eq_encodeValue h hlt.1, ← eq_fields hs hlt.2]

end

/-- Values of legal types are encoded as the ABI prescribes: every field holds the encoding of its
value and stands in its place, and so does every component within it. -/
theorem encode_conforms {types : List AbiType} (hts : ∀ t ∈ types, t.IsLegal)
    {values : List AbiValue} (hvalues : checkTypes values types = .ok ()) :
    ∃ data, encode values types = .ok data ∧ (data.length < Size.limit →
      AreEncodings values types (fields values types) ∧ HasLayout (fields values types) data ∧
        data.length % 32 = 0) := by
  have htyped := checkTypes_eq_ok_iff.mp hvalues
  refine ⟨layOut (fields values types), ?_, fun hlt => ?_⟩
  · rw [encode, hvalues]
    rfl
  · have hencodings := areEncodings_fields htyped hts (length_body_lt hlt)
    exact ⟨hencodings, hasLayout_fields htyped hts hlt,
      length_layOut_mod (length_fields_mod htyped)⟩

theorem encode_conforms_nested :
    let types : List AbiType :=
      [.fixedArray (.uint 8) 2, .array (.tuple [.bool, .string]), .fixedArray .bytes 0,
        .struct "Note" [.fixedBytes 2, .bytes]]
    let values : List AbiValue :=
      [.fixedArray [.uint 1 8, .uint 2 8], .array [.tuple [.bool true, .string "a"]],
        .fixedArray [], .tuple [.fixedBytes (0xabcd <<< 240) 2, .bytes []]]
    (∀ t ∈ types, t.IsLegal) ∧ checkTypes values types = .ok () ∧
      ∃ data, encode values types = .ok data ∧ AreEncodings values types (fields values types) ∧
        HasLayout (fields values types) data ∧ wordAt data 64 = 128 ∧ wordAt data 96 = 320 ∧
        data.length = 416 := by
  intro types values
  have hts : ∀ t ∈ types, t.IsLegal := by decide +kernel
  have hvalues : checkTypes values types = .ok () := by decide +kernel
  obtain ⟨data, hdata, h⟩ := encode_conforms hts hvalues
  have heq : data = layOut (fields values types) := by
    rw [encode, hvalues] at hdata
    exact (Except.ok.inj hdata).symm
  have hlen : data.length = 416 := by
    rw [heq]
    decide +kernel
  obtain ⟨hencodings, hlayout, -⟩ := h (by rw [hlen]; decide)
  refine ⟨hts, hvalues, data, hdata, hencodings, hlayout, ?_, ?_, hlen⟩
  · rw [heq]
    decide +kernel
  · rw [heq]
    decide +kernel

end ContractCalls.Abi
