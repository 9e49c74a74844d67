import JsonTypings.Proofs.Json.Written
import JsonTypings.Proofs.Sample.Key
import JsonTypings.Proofs.Sample.Sampler

/-! Sample documents can be written and read back: their texts are ASCII, their integers are short,
and the keys of an object differ. -/
namespace JsonTypings

open Encoding (IsPlain isPlain_append isPlain_cons isPlain_nil isPlain_intercalate)
open Json (Regular isPlain_ofNat isPlain_ofInt isPlain_hex)

namespace Json

theorem regular_null : Regular .null :=
  ⟨by simp [Value.parts], by simp [Value.parts], by simp [Value.parts]⟩

theorem regular_bool (b : Bool) : Regular (.bool b) :=
  ⟨by simp [Value.parts], by simp [Value.parts], by simp [Value.parts]⟩

theorem regular_float (x : Float) : Regular (.float x) :=
  ⟨by simp [Value.parts], by simp [Value.parts], by simp [Value.parts]⟩

/-- A short integer. -/
theorem regular_int {n : Int} (h : n.natAbs < 10000) : Regular (.int n) := by
  refine ⟨fun m hm => ?_, by simp [Value.parts], by simp [Value.parts]⟩
  obtain rfl : m = n := by simpa [Value.parts] using hm
  have hlength := Nat.toDigits_length 10 m.natAbs 4 (by decide) h
  rw [Text.ofNat, List.length_map]
  exact hlength.trans (by decide)

theorem unpaired_of_isPlain {t : Text} (h : IsPlain t) : t.Unpaired :=
  Text.unpaired_of_ascii fun c hc => (h c hc).1

theorem regular_string {t : Text} (h : IsPlain t) : Regular (.string t) := by
  refine ⟨by simp [Value.parts], fun u hu => ?_, by simp [Value.parts]⟩
  obtain rfl : u = t := by simpa [Value.parts] using hu
  exact unpaired_of_isPlain h

theorem regular_array {items : List Value} (h : ∀ v ∈ items, Regular v) :
    Regular (.array items) where
  integers n hn := by
    obtain ⟨v, hv, hn⟩ : ∃ v ∈ items, .int n ∈ v.parts := by simpa using hn
    exact (h v hv).integers n hn
  strings t ht := by
    obtain ⟨v, hv, ht⟩ : ∃ v ∈ items, .string t ∈ v.parts := by simpa using ht
    exact (h v hv).strings t ht
  keys members hmembers := by
    obtain ⟨v, hv, hmembers⟩ : ∃ v ∈ items, .object members ∈ v.parts := by simpa using hmembers
    exact (h v hv).keys members hmembers

theorem regular_object {members : Members} (hnodup : members.keys.Nodup)
    (hkeys : ∀ key ∈ members.keys, key.Unpaired)
    (h : ∀ m ∈ members, Regular m.2) : Regular (.object members) where
  integers n hn := by
    rw [Value.parts_object, List.mem_cons, List.mem_flatMap] at hn
    obtain ⟨m, hm, hn⟩ := hn.resolve_left (by simp)
    exact (h m hm).integers n hn
  strings t ht := by
    rw [Value.parts_object, List.mem_cons, List.mem_flatMap] at ht
    obtain ⟨m, hm, ht⟩ := ht.resolve_left (by simp)
    exact (h m hm).strings t ht
  keys inner hinner := by
    rw [Value.parts_object, List.mem_cons, List.mem_flatMap] at hinner
    rcases hinner with hinner | ⟨m, hm, hinner⟩
    · cases hinner
      exact ⟨hnodup, hkeys⟩
    · exact (h m hm).keys inner hinner

end Json

namespace Sample

open Draw Json

theorem always_filler (length : Int) : Always IsPlain (filler length) := by
  have hwords : ∀ t ∈ Text.ofString "lorem" ::
      ["ipsum", "dolor", "sit", "amet", "consectetur", "adipiscing"].map Text.ofString, IsPlain t := by decide
  refine (always_chooseMany _ _ _).bind fun words hchosen => always_pure ?_
  have hblank : IsPlain (Text.ofString " ") := by decide
  have hplain := isPlain_intercalate hblank fun t ht => hwords t (hchosen t ht)
  exact fun c hc => hplain c (List.mem_of_mem_take hc)

theorem always_letters {pool : Text} (hpool : IsPlain (CodePoint.ofChar 'a' :: pool))
    (length : Int) :
    Always IsPlain (chooseMany (CodePoint.ofChar 'a') pool length) :=
  (always_chooseMany _ _ _).mono fun _ ht c hc => hpool c (ht c hc)

theorem always_string (low high : Int) : Always IsPlain (string low high) := by
  refine (always_between low high).bind fun length _ => (always_true _).bind fun m _ => ?_
  split
  · exact always_filler length
  · split
    · exact always_letters (by decide) length
    · exact always_letters (by decide) length

theorem isPlain_padded (width n : Nat) : IsPlain (padded width n) := by
  refine isPlain_append.mpr ⟨fun c hc => ?_, isPlain_ofNat n⟩
  rw [(List.mem_replicate.mp hc).2]
  decide

theorem always_datetime : Always IsPlain datetime := by
  refine (always_between 0 1825).bind fun day _ => (always_between 0 23).bind fun hour _ => always_pure ?_
  simp only [isPlain_append]
  refine ⟨⟨⟨isPlain_intercalate (by decide) ?_, by decide⟩, isPlain_padded _ _⟩, by decide⟩
  simp only [List.forall_mem_cons, List.not_mem_nil, false_implies, implies_true, and_true]
  exact ⟨isPlain_padded _ _, isPlain_padded _ _, isPlain_padded _ _⟩

theorem always_email : Always IsPlain email := by
  refine Always.bind (P := fun name => IsPlain (Text.ofString name)) (always_choose (by decide))
    fun name hname => ?_
  refine (always_between 1 999).bind fun number _ => ?_
  refine Always.bind (P := fun domain => IsPlain (Text.ofString ("@" ++ domain))) (always_choose (by decide))
    fun domain hdomain => always_pure ?_
  exact isPlain_append.mpr ⟨isPlain_append.mpr ⟨hname, isPlain_ofInt number⟩, hdomain⟩

theorem isPlain_pieces {t : Text} (ht : IsPlain t) (lengths : List Nat) :
    ∀ u ∈ pieces t lengths, IsPlain u := by
  induction lengths generalizing t with
  | nil => simp [pieces]
  | cons n rest ih =>
    rw [pieces, List.forall_mem_cons]
    exact ⟨fun c hc => ht c (List.mem_of_mem_take hc),
      ih fun c hc => ht c (List.mem_of_mem_drop hc)⟩

theorem always_identifier : Always IsPlain identifier :=
  (always_true _).map fun n _ => isPlain_intercalate (by decide) (isPlain_pieces (isPlain_hex 32 n) _)

theorem always_primitive : Always Regular primitive := by
  refine (always_true _).bind fun kind _ => ?_
  split
  · exact (always_between _ _).bind fun i hi => always_pure (regular_int (by omega))
  · exact (always_true _).bind fun x _ => always_pure (regular_float _)
  · exact (always_string _ _).bind fun t ht => always_pure (regular_string ht)
  · exact (always_true _).bind fun b _ => always_pure (regular_bool b)
  · exact always_datetime.bind fun t ht => always_pure (regular_string ht)
  · exact always_email.bind fun t ht => always_pure (regular_string ht)
  · exact always_identifier.bind fun t ht => always_pure (regular_string ht)

theorem always_primitives : Always (fun items => ∀ v ∈ items, Regular v) primitives := by
  refine Always.bind (P := Always Regular) (always_choose ?_) fun element helement => ?_
  · simp only [List.forall_mem_cons, List.not_mem_nil, false_implies, implies_true, and_true]
    exact ⟨(always_between _ _).map fun i hi => regular_int (by omega),
      (always_string _ _).map fun _ => regular_string,
      (always_true _).map fun b _ => regular_bool b⟩
  · exact (always_true _).bind fun count _ => always_times helement _

/-! Keys -/

theorem isPlain_capitalWord {t : Text} (h : IsPlain t) : IsPlain (KeyStyle.capitalWord t) := by
  cases t with
  | nil => exact isPlain_nil
  | cons c t =>
    obtain ⟨hc, ht⟩ := isPlain_cons.mp h
    refine isPlain_cons.mpr ⟨?_, ht⟩
    split
    · rename_i hsmall
      simp only [Bool.and_eq_true, decide_eq_true_eq] at hsmall
      have hval := CodePoint.ofNat_val (n := c.val - 0x20) (by omega)
      refine ⟨by omega, fun hreturn => ?_⟩
      rw [hreturn, CodePoint.ofChar_val] at hval
      have hthirteen : ('\r' : Char).toNat = 13 := rfl
      omega
    · exact hc

theorem isPlain_join {words : List Text} (h : ∀ t ∈ words, IsPlain t) (style : KeyStyle) :
    IsPlain (style.join words) := by
  cases style with
  | kebab => exact isPlain_intercalate (by decide) h
  | snake => exact isPlain_intercalate (by decide) h
  | camel =>
    cases words with
    | nil => exact isPlain_nil
    | cons first rest =>
      obtain ⟨hfirst, hrest⟩ := List.forall_mem_cons.mp h
      exact isPlain_append.mpr
        ⟨hfirst, Encoding.isPlain_flatMap fun t ht => isPlain_capitalWord (hrest t ht)⟩

theorem IsSampleKey.isPlain {key : Text} (h : IsSampleKey key) : IsPlain key := by
  have hwords : ∀ t ∈ keyWords, IsPlain t := by decide
  obtain ⟨style, words, hkey, rfl⟩ := h
  exact isPlain_join (fun t ht => hwords t (hkey.subset ht)) style

/-! Documents -/

/-- Members with different sample keys, whose values have some property. -/
structure Filled (P : Value → Prop) (members : Members) : Prop where
  nodup : members.keys.Nodup
  keys : ∀ key ∈ members.keys, IsSampleKey key
  values : ∀ m ∈ members, P m.2

theorem filled_nil (P : Value → Prop) : Filled P [] :=
  ⟨by simp [Members.keys], by simp [Members.keys], by simp⟩

theorem Filled.insert {P : Value → Prop} {members : Members} (h : Filled P members) {key : Text}
    (hnew : key ∉ members.keys) (hkey : IsSampleKey key) {v : Value} (hv : P v) :
    Filled P (members.insert key v) where
  nodup := Members.nodup_keys_insert h.nodup key v
  keys k hk := by
    rw [Members.keys_insert, if_neg hnew] at hk
    rcases List.mem_append.mp hk with hk | hk
    · exact h.keys k hk
    · exact List.mem_singleton.mp hk ▸ hkey
  values m hm := by
    rw [Members.insert_of_not_mem hnew] at hm
    rcases List.mem_append.mp hm with hm | hm
    · exact h.values m hm
    · exact List.mem_singleton.mp hm ▸ hv

theorem Filled.regular {members : Members} (h : Filled Regular members) : Regular (.object members) :=
  regular_object h.nodup (fun key hkey => unpaired_of_isPlain (h.keys key hkey).isPlain) h.values

/-- The loop over the fields of an object adds as many as it should, and loses none. -/
theorem always_fields {P : Value → Prop} {value : Draw Value} (hvalue : Always P value) (n : Nat)
    {members : Members} (h : Filled P members) :
    Always (fun ms => Filled P ms ∧ ms.length = members.length + n) (fields value members n) := by
  induction n generalizing members with
  | zero => exact always_pure ⟨h, rfl⟩
  | succ n ih =>
    refine (always_newKey members.keys).bind fun key hkey => hvalue.bind fun v hv => ?_
    refine (ih (h.insert hkey.1 hkey.2 hv)).mono ?_
    rintro ms ⟨hms, hlength⟩
    rw [Members.length_insert_of_not_mem hkey.1] at hlength
    exact ⟨hms, by omega⟩

/-- So does the loop that draws a primitive before its key. -/
theorem always_primitiveFields {P : Value → Prop} (hprimitive : Always P primitive) (n : Nat)
    {members : Members} (h : Filled P members) :
    Always (fun ms => Filled P ms ∧ ms.length = members.length + n) (primitiveFields members n) := by
  induction n generalizing members with
  | zero => exact always_pure ⟨h, rfl⟩
  | succ n ih =>
    refine hprimitive.bind fun v hv => (always_newKey members.keys).bind fun key hkey => ?_
    refine (ih (h.insert hkey.1 hkey.2 hv)).mono ?_
    rintro ms ⟨hms, hlength⟩
    rw [Members.length_insert_of_not_mem hkey.1] at hlength
    exact ⟨hms, by omega⟩

theorem always_flatValue (kind : Nat) : Always Regular (flatValue kind) := by
  unfold flatValue
  split
  · exact always_primitive
  · exact always_primitive
  · exact always_pure regular_null
  · exact always_primitives.bind fun items hitems => always_pure (regular_array hitems)
  · exact always_pure (regular_array (by simp))

theorem always_fieldValue (depth : Nat) (width : Int) :
    Always Regular (fieldValue depth width) := by
  induction depth generalizing width with
  | zero => exact (always_true _).bind fun kind _ => always_flatValue kind
  | succ depth ih =>
    have hobject := (always_fields (ih (childWidth width)) (childWidth width) (filled_nil _)).map
      (f := Value.object) fun _ h => h.1.regular
    refine (always_true _).bind fun kind _ => ?_
    split
    · exact hobject
    · exact (always_true _).bind fun count _ => (always_times hobject _).map fun _ => regular_array
    · exact always_flatValue _

/-- A sample document can be written and read back, as far as its floats can. -/
theorem always_document (depth width : Int) :
    Always (fun ms => Regular (.object ms)) (document depth width) :=
  (always_fields (always_fieldValue _ _) _ (filled_nil _)).mono fun _ h => h.1.regular

/-- So can all documents of a batch. -/
theorem regular_documents {count depth width : Int} {attempts : Nat} {s : Sampler} {documents : List Members}
    (h : (s.documents count depth width attempts).1 = .ok documents) :
    ∀ d ∈ documents, Regular (.object d) := by
  obtain ⟨-, hdrawn⟩ := Sampler.documents_eq_ok.mp h
  intro d hd
  obtain ⟨i, hi, rfl⟩ := List.mem_iff_getElem.mp hd
  exact (always_document depth width).of_ok (hdrawn i hi)

end Sample

end JsonTypings
