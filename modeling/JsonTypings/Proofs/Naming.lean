import JsonTypings.Naming
import JsonTypings.Proofs.CodePoint.Upper
import JsonTypings.Proofs.Text

/-! What names of fields and of interfaces are made of. They hold no mark that their key does not
hold, and no hyphen at all. The name of an interface does not begin with a small letter; it is the name
of the field with a capital, and naming a name again changes nothing more. -/
namespace JsonTypings.Naming

theorem mem_of_mem_capitalize {c : CodePoint} {t : Text} (hc : c.IsMark) (h : c ∈ capitalize t) :
    c ∈ t := by
  cases t with
  | nil => cases h
  | cons d rest =>
    rcases List.mem_append.mp h with h | h
    · exact CodePoint.eq_of_mem_upper h hc ▸ List.mem_cons_self
    · exact List.mem_cons_of_mem _ h

theorem mem_of_mem_flatMap_capitalize {c : CodePoint} {parts : List Text} {t : Text}
    (hparts : ∀ part ∈ parts, part ∈ segments t) (hc : c.IsMark) (h : c ∈ parts.flatMap capitalize) :
    c ∈ t := by
  obtain ⟨part, hpart, hmem⟩ := List.mem_flatMap.mp h
  exact Text.mem_of_mem_splitOn (hparts part hpart) (mem_of_mem_capitalize hc hmem)

theorem mem_of_mem_pascal {c : CodePoint} {t : Text} (hc : c.IsMark) (h : c ∈ pascal t) : c ∈ t :=
  mem_of_mem_flatMap_capitalize (fun _ hpart => hpart) hc h

theorem mem_of_mem_camel {c : CodePoint} {t : Text} (hc : c.IsMark) (h : c ∈ camel t) : c ∈ t := by
  unfold camel at h
  split at h
  · cases h
  · rename_i first rest hsegments
    rcases List.mem_append.mp h with h | h
    · exact Text.mem_of_mem_splitOn (hsegments ▸ List.mem_cons_self : first ∈ segments t) h
    · exact mem_of_mem_flatMap_capitalize (fun part hpart => hsegments ▸ List.mem_cons_of_mem _ hpart) hc h

/-- The first code point of a capitalized text, if there is one, comes from an upper case. -/
theorem not_isSmallLetter_head_flatMap {c : CodePoint} {parts : List Text}
    (h : (parts.flatMap capitalize).head? = some c) : ¬ c.IsSmallLetter := by
  induction parts with
  | nil => cases h
  | cons part more ih =>
    cases part with
    | nil => exact ih h
    | cons d rest =>
      obtain ⟨e, image, himage⟩ := List.exists_cons_of_ne_nil d.upper_ne_nil
      have hce : e = c := by simpa [capitalize, himage] using h
      exact CodePoint.not_isSmallLetter_of_mem_upper (c := d) (himage ▸ hce ▸ List.mem_cons_self)

theorem not_isSmallLetter_head_pascal {c : CodePoint} {t : Text} (h : (pascal t).head? = some c) :
    ¬ c.IsSmallLetter := not_isSmallLetter_head_flatMap h

/-! Names of names -/

theorem pascal_append (a b : Text) : pascal (a ++ CodePoint.ofChar '-' :: b) = pascal a ++ pascal b := by
  rw [pascal, segments_append, List.flatMap_append, pascal, pascal]

theorem camel_append (a b : Text) : camel (a ++ CodePoint.ofChar '-' :: b) = camel a ++ pascal b := by
  obtain ⟨first, rest, ha⟩ := List.exists_cons_of_ne_nil (segments_ne_nil a)
  simp only [camel, segments_append, ha, List.cons_append, List.flatMap_append, List.append_assoc, pascal]

theorem hyphen_not_mem_flatMap_capitalize {parts : List Text} {t : Text}
    (hparts : ∀ part ∈ parts, part ∈ segments t) :
    CodePoint.ofChar '-' ∉ parts.flatMap capitalize := by
  intro h
  obtain ⟨part, hpart, hmem⟩ := List.mem_flatMap.mp h
  exact Text.not_mem_of_mem_splitOn (hparts part hpart) (mem_of_mem_capitalize (by decide) hmem)

theorem hyphen_not_mem_pascal (t : Text) : CodePoint.ofChar '-' ∉ pascal t :=
  hyphen_not_mem_flatMap_capitalize fun _ hpart => hpart

theorem hyphen_not_mem_camel (t : Text) : CodePoint.ofChar '-' ∉ camel t := by
  obtain ⟨first, rest, ht⟩ := List.exists_cons_of_ne_nil (segments_ne_nil t)
  have hfirst : CodePoint.ofChar '-' ∉ first :=
    Text.not_mem_of_mem_splitOn (ht ▸ List.mem_cons_self : first ∈ segments t)
  have hrest : CodePoint.ofChar '-' ∉ rest.flatMap capitalize :=
    hyphen_not_mem_flatMap_capitalize fun _ hpart => ht ▸ List.mem_cons_of_mem _ hpart
  simp only [camel, ht, List.mem_append, not_or]
  exact ⟨hfirst, hrest⟩

/-- Without hyphens the name of a field is the key itself. -/
theorem camel_of_not_mem {t : Text} (h : CodePoint.ofChar '-' ∉ t) : camel t = t := by
  simp [camel, segments, Text.splitOn_of_not_mem h]

theorem pascal_of_not_mem {t : Text} (h : CodePoint.ofChar '-' ∉ t) : pascal t = capitalize t := by
  simp [pascal, segments, Text.splitOn_of_not_mem h]

theorem capitalize_append {s : Text} (hs : s ≠ []) (t : Text) : capitalize (s ++ t) = capitalize s ++ t := by
  obtain ⟨c, rest, rfl⟩ := List.exists_cons_of_ne_nil hs
  simp [capitalize]

/-- What has a capital already is left alone. -/
theorem capitalize_capitalize (t : Text) : capitalize (capitalize t) = capitalize t := by
  cases t with
  | nil => rfl
  | cons c rest =>
    obtain ⟨d, image, himage⟩ := List.exists_cons_of_ne_nil c.upper_ne_nil
    have hd : d.upper = [d] := CodePoint.upper_head_upper (himage ▸ rfl : c.upper.head? = some d)
    simp [capitalize, himage, hd]

theorem capitalize_ne_nil {t : Text} (h : t ≠ []) : capitalize t ≠ [] := by
  obtain ⟨c, rest, rfl⟩ := List.exists_cons_of_ne_nil h
  simp [capitalize, c.upper_ne_nil]

theorem capitalize_flatMap_capitalize (parts : List Text) :
    capitalize (parts.flatMap capitalize) = parts.flatMap capitalize := by
  induction parts with
  | nil => rfl
  | cons part more ih =>
    by_cases hpart : part = []
    · subst hpart
      exact ih
    · rw [List.flatMap_cons, capitalize_append (capitalize_ne_nil hpart), capitalize_capitalize]

theorem capitalize_pascal (t : Text) : capitalize (pascal t) = pascal t :=
  capitalize_flatMap_capitalize (segments t)

/-- The name of an interface is the name of a field with a capital. -/
theorem capitalize_camel (t : Text) : capitalize (camel t) = pascal t := by
  obtain ⟨first, rest, ht⟩ := List.exists_cons_of_ne_nil (segments_ne_nil t)
  simp only [camel, pascal, ht, List.flatMap_cons]
  by_cases hfirst : first = []
  · subst hfirst
    exact capitalize_flatMap_capitalize rest
  · exact capitalize_append hfirst _

theorem capitalize_eq (t : Text) : capitalize t = (t.take 1).flatMap CodePoint.upper ++ t.drop 1 := by
  cases t <;> simp [capitalize]

/-- The laws of naming. A hyphen joins the names of what stands before it and behind it, and is gone;
names are their own names, with a capital or without; and the name of the interface for a key is the
name of its field with the first code point in upper case. -/
theorem naming_laws (a b : Text) :
    pascal (a ++ CodePoint.ofChar '-' :: b) = pascal a ++ pascal b ∧
      camel (a ++ CodePoint.ofChar '-' :: b) = camel a ++ pascal b ∧
      CodePoint.ofChar '-' ∉ pascal a ∧ CodePoint.ofChar '-' ∉ camel a ∧
      camel (camel a) = camel a ∧ camel (pascal a) = pascal a ∧
      pascal (pascal a) = pascal a ∧ pascal (camel a) = pascal a ∧
      pascal a = ((camel a).take 1).flatMap CodePoint.upper ++ (camel a).drop 1 := by
  have hpascal := hyphen_not_mem_pascal a
  have hcamel := hyphen_not_mem_camel a
  refine ⟨pascal_append a b, camel_append a b, hpascal, hcamel, camel_of_not_mem hcamel,
    camel_of_not_mem hpascal, ?_, ?_, ?_⟩
  · rw [pascal_of_not_mem hpascal, capitalize_pascal]
  · rw [pascal_of_not_mem hcamel, capitalize_camel]
  · rw [← capitalize_camel, capitalize_eq]

end JsonTypings.Naming
