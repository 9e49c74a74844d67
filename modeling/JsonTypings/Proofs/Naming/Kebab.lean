import JsonTypings.CodePoint.Lower
import JsonTypings.Proofs.Typing.Token
import JsonTypings.Typing.Document
import Mathlib.Data.List.Nodup
import Mathlib.Data.Set.Function

/-! Keys in kebab case, such as `geo-position`. Such a key can be read back from the name of its field
and from the name of its interface, so the names of different keys are different. -/
namespace JsonTypings

namespace CodePoint

/-- Upper case makes a capital letter of a small one, and lower case makes it small again. -/
theorem exists_capital {c : CodePoint} (h : c.IsSmallLetter) :
    ∃ d : CodePoint, d.IsCapitalLetter ∧ c.upper = [d] ∧ d.lower = [c] := by
  have hletters : ∀ k : Fin 26, (ofNat (65 + k)).IsCapitalLetter ∧
      (ofNat (97 + k)).upper = [ofNat (65 + k)] ∧ (ofNat (65 + k)).lower = [ofNat (97 + k)] := by
    decide +kernel
  obtain ⟨hlow, hhigh⟩ := h
  have hletter := hletters ⟨c.val - 97, by omega⟩
  rw [Nat.add_sub_cancel' hlow, ofNat_self] at hletter
  exact ⟨_, hletter⟩

end CodePoint

namespace Naming

open CodePoint (IsSmallLetter IsCapitalLetter)

/-- A small letter, a digit or an underscore. -/
def IsWordMark (c : CodePoint) : Prop := c.IsSmallLetter ∨ c.digit?.isSome ∨ c = CodePoint.ofChar '_'

instance (c : CodePoint) : Decidable (IsWordMark c) := inferInstanceAs (Decidable (_ ∨ _ ∨ _))

/-- A small letter, and behind it small letters, digits and underscores. -/
def IsWord (t : Text) : Prop := (∃ c ∈ t.head?, c.IsSmallLetter) ∧ ∀ c ∈ t, IsWordMark c

instance (t : Text) : Decidable (IsWord t) := inferInstanceAs (Decidable (_ ∧ _))

/-- One or more words with single hyphens between them. -/
def IsKebab (key : Text) : Prop :=
  ∃ words : List Text, words ≠ [] ∧ (∀ w ∈ words, IsWord w) ∧
    key = List.intercalate [CodePoint.ofChar '-'] words

/-- Puts a hyphen in front of each capital letter and makes the letter small. -/
def hyphenate (t : Text) : Text :=
  t.flatMap fun c => if c.IsCapitalLetter then CodePoint.ofChar '-' :: c.lower else [c]

theorem hyphenate_append (s t : Text) : hyphenate (s ++ t) = hyphenate s ++ hyphenate t :=
  List.flatMap_append

theorem IsWordMark.not_isCapitalLetter {c : CodePoint} (h : IsWordMark c) : ¬ c.IsCapitalLetter := by
  rintro ⟨hlow, hhigh⟩
  rcases h with ⟨hsmall, -⟩ | hdigit | rfl
  · omega
  · have hten : ¬ c.val ≤ 0x39 := by omega
    simp [CodePoint.digit?, hten] at hdigit
  · revert hlow hhigh
    decide

theorem hyphenate_of_wordMarks {t : Text} (h : ∀ c ∈ t, IsWordMark c) : hyphenate t = t := by
  induction t with
  | nil => rfl
  | cons c rest ih =>
    obtain ⟨hc, hrest⟩ := List.forall_mem_cons.mp h
    have hrest := ih hrest
    rw [hyphenate] at hrest
    rw [hyphenate, List.flatMap_cons, if_neg hc.not_isCapitalLetter, hrest]
    rfl

/-- The capital of a word gives the word back, with a hyphen in front. -/
theorem hyphenate_capitalize {w : Text} (h : IsWord w) :
    hyphenate (capitalize w) = CodePoint.ofChar '-' :: w := by
  obtain ⟨⟨c, hhead, hsmall⟩, hmarks⟩ := h
  obtain ⟨rest, rfl⟩ := List.head?_eq_some_iff.mp hhead
  obtain ⟨d, hcapital, hupper, hlower⟩ := CodePoint.exists_capital hsmall
  have hrest := hyphenate_of_wordMarks (List.forall_mem_cons.mp hmarks).2
  rw [capitalize, hupper, hyphenate_append, hrest]
  simp [hyphenate, hcapital, hlower]

theorem hyphenate_flatMap_capitalize {words : List Text} (h : ∀ w ∈ words, IsWord w) :
    hyphenate (words.flatMap capitalize) = words.flatMap (CodePoint.ofChar '-' :: ·) := by
  induction words with
  | nil => rfl
  | cons w words ih =>
    obtain ⟨hw, hwords⟩ := List.forall_mem_cons.mp h
    rw [List.flatMap_cons, List.flatMap_cons, hyphenate_append, hyphenate_capitalize hw, ih hwords]

theorem IsWord.hyphen_not_mem {w : Text} (h : IsWord w) : CodePoint.ofChar '-' ∉ w := by
  intro hmem
  exact absurd (h.2 _ hmem) (by decide)

/-- The words of a key are its segments. -/
theorem segments_intercalate {words : List Text} (hne : words ≠ []) (h : ∀ w ∈ words, IsWord w) :
    segments (List.intercalate [CodePoint.ofChar '-'] words) = words := by
  rw [segments, Text.splitOn_eq]
  exact List.splitOn_intercalate _ (fun w hw => (h w hw).hyphen_not_mem) hne

theorem isKebab_iff {key : Text} : IsKebab key ↔ ∀ w ∈ segments key, IsWord w := by
  constructor
  · rintro ⟨words, hne, hwords, rfl⟩
    rwa [segments_intercalate hne hwords]
  · intro h
    refine ⟨segments key, segments_ne_nil key, h, ?_⟩
    rw [segments, Text.splitOn_eq, List.intercalate_splitOn]

instance (key : Text) : Decidable (IsKebab key) := decidable_of_iff _ isKebab_iff.symm

theorem flatMap_hyphen (words : List Text) (w : Text) :
    w ++ words.flatMap (CodePoint.ofChar '-' :: ·) =
      List.intercalate [CodePoint.ofChar '-'] (w :: words) := by
  induction words generalizing w with
  | nil => simp
  | cons next words ih =>
    rw [List.intercalate_cons_cons, ← ih]
    simp

/-- The name of a field gives the key back. -/
theorem hyphenate_camel {key : Text} (h : IsKebab key) : hyphenate (camel key) = key := by
  obtain ⟨words, hne, hwords, rfl⟩ := h
  obtain ⟨w, words, rfl⟩ := List.exists_cons_of_ne_nil hne
  obtain ⟨hw, hrest⟩ := List.forall_mem_cons.mp hwords
  rw [camel, segments_intercalate hne hwords]
  simp only
  rw [hyphenate_append, hyphenate_of_wordMarks hw.2, hyphenate_flatMap_capitalize hrest, flatMap_hyphen]

/-- So does the name of an interface, with one more hyphen in front. -/
theorem hyphenate_pascal {key : Text} (h : IsKebab key) :
    hyphenate (pascal key) = CodePoint.ofChar '-' :: key := by
  obtain ⟨words, hne, hwords, rfl⟩ := h
  rw [pascal, segments_intercalate hne hwords, hyphenate_flatMap_capitalize hwords]
  obtain ⟨w, words, rfl⟩ := List.exists_cons_of_ne_nil hne
  rw [List.flatMap_cons, List.cons_append, flatMap_hyphen]

theorem camel_injOn : Set.InjOn camel {key | IsKebab key} := by
  intro key hkey other hother h
  rw [← hyphenate_camel hkey, h, hyphenate_camel hother]

theorem pascal_injOn : Set.InjOn pascal {key | IsKebab key} := by
  intro key hkey other hother h
  have hcons := congrArg hyphenate h
  rw [hyphenate_pascal hkey, hyphenate_pascal hother] at hcons
  exact (List.cons.inj hcons).2

end Naming

open Naming

theorem Field.name_ofMember (key : Text) (v : Value) : (Field.ofMember key v).name = camel key := by
  cases v <;> rfl

theorem Declaration.map_name_ofMembers (name : Text) (members : Members) :
    (ofMembers name members).fields.map Field.name = members.keys.map camel := by
  simp [ofMembers, Members.keys, Field.name_ofMember]

/-- The interface that a type names, below all arrays, if it names one. -/
def FieldType.record? : FieldType → Option Text
  | .record name => some name
  | .array element => element.record?
  | _ => none

/-- The interface that a declared field names, if it names one. -/
def Field.record? : Field → Option Text
  | .optional _ => none
  | .required _ type => type.record?

theorem FieldType.record?_ofValue (key : Text) (v : Value) :
    (FieldType.ofValue key v).record? = recordName? key v := by
  rw [recordName?_eq]
  fun_induction FieldType.ofValue key v with
  | case7 v rest ih => exact ih
  | _ => rfl

theorem Field.record?_ofMember (key : Text) (v : Value) :
    (Field.ofMember key v).record? = FieldType.recordName? key v := by
  cases v with
  | null => rfl
  | _ => exact FieldType.record?_ofValue key _

theorem Declaration.filterMap_record?_ofMembers (name : Text) (members : Members) :
    (ofMembers name members).fields.filterMap Field.record? =
      members.filterMap fun m => FieldType.recordName? m.1 m.2 := by
  simp [ofMembers, List.filterMap_map, Field.record?_ofMember]

/-- The interfaces that fields name are named after the keys of those whose samples are objects. -/
theorem FieldType.filterMap_recordName? (members : Members) :
    (members.filterMap fun m => recordName? m.1 m.2) =
      ((members.filter fun m => m.2.sample.kind = .object).map Prod.fst).map pascal := by
  induction members with
  | nil => rfl
  | cons m rest ih =>
    rw [List.filterMap_cons, recordName?_eq, ih, List.filter_cons]
    by_cases hobject : m.2.sample.kind = .object <;> simp [hobject]

/-- Keys in kebab case never clash. Each can be read back from the name of its field and from the name
of its interface; so in the declaration of an object with such keys no two fields have one name, and no
two of them refer to interfaces of one name. -/
theorem kebab_names_distinct (name : Text) {members : Members} (hdistinct : members.keys.Nodup)
    (hkebab : ∀ key ∈ members.keys, IsKebab key) :
    (∀ key, IsKebab key → hyphenate (camel key) = key ∧ (hyphenate (pascal key)).tail = key) ∧
      ∃ d, Declaration.ofNode name (.object members) = .ok d ∧
        d.fields.map Field.name = members.keys.map camel ∧ (d.fields.map Field.name).Nodup ∧
        (d.fields.filterMap Field.record? = members.filterMap fun m => FieldType.recordName? m.1 m.2) ∧
        (d.fields.filterMap Field.record?).Nodup := by
  refine ⟨?_, .ofMembers name members, rfl, Declaration.map_name_ofMembers name members, ?_,
    Declaration.filterMap_record?_ofMembers name members, ?_⟩
  · intro key hkey
    refine ⟨hyphenate_camel hkey, ?_⟩
    rw [hyphenate_pascal hkey, List.tail_cons]
  · rw [Declaration.map_name_ofMembers]
    apply hdistinct.map_on
    intro key hkey other hother
    exact camel_injOn (hkebab key hkey) (hkebab other hother)
  · have hobjects : List.Sublist ((members.filter fun m => m.2.sample.kind = .object).map Prod.fst)
        members.keys := List.filter_sublist.map Prod.fst
    rw [Declaration.filterMap_record?_ofMembers, FieldType.filterMap_recordName?]
    apply (hdistinct.sublist hobjects).map_on
    intro key hkey other hother
    exact pascal_injOn (hkebab key (hobjects.subset hkey)) (hkebab other (hobjects.subset hother))

/-- Five keys that differ in little but hyphens. -/
def closeKeys : Members :=
  [(Text.ofString "user-name", .object []), (Text.ofString "username", .array [.object []]),
    (Text.ofString "user_name", .object []), (Text.ofString "user-n-ame", .null),
    (Text.ofString "u-ser-name", .array [.array [.object [], .null]])]

theorem kebab_names_distinct_closeKeys :
    closeKeys.keys.Nodup ∧ (∀ key ∈ closeKeys.keys, IsKebab key) ∧
      ∃ d, Declaration.ofNode defaultRootName (.object closeKeys) = .ok d ∧
        d.fields.map Field.name =
          ["userName", "username", "user_name", "userNAme", "uSerName"].map Text.ofString ∧
        (d.fields.map Field.name).Nodup ∧
        d.fields.filterMap Field.record? = ["UserName", "Username", "User_name", "USerName"].map Text.ofString ∧
        (d.fields.filterMap Field.record?).Nodup := by
  have hdistinct : closeKeys.keys.Nodup := by decide
  have hkebab : ∀ key ∈ closeKeys.keys, IsKebab key := by decide
  obtain ⟨-, d, hd, hnames, hnodup, hrecords, hrecordsNodup⟩ :=
    kebab_names_distinct defaultRootName hdistinct hkebab
  exact ⟨hdistinct, hkebab, d, hd, hnames.trans (by decide), hnodup, hrecords.trans (by decide), hrecordsNodup⟩

/-- A digit has no capital, so behind a hyphen it must not stand. -/
example : camel (Text.ofString "a-1") = camel (Text.ofString "a1") := by decide

end JsonTypings
