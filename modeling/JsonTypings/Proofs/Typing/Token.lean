import JsonTypings.Proofs.Naming
import JsonTypings.Typing.FieldType
import JsonTypings.Typing.Shape
import Mathlib.Data.List.Basic

/-! Types of fields as they are written, and what can be read off them. The type of a field is that
of the sample of its value, with a mark for each array around the sample; it is the name of an
interface exactly when the sample is an object. -/
namespace JsonTypings

/-- The number of arrays around the sample of a value. An empty array counts as well. -/
def Value.layers : Value → Nat
  | .array [] => 1
  | .array (v :: _) => v.layers + 1
  | _ => 0

/-- Around what is no array there are no arrays. -/
theorem Value.layers_eq_zero {v : Value} (h : v.kind ≠ .array) : v.layers = 0 := by
  cases v with
  | array items => exact absurd rfl h
  | _ => rfl

theorem Value.kind_ne_array {v : Value} (hnil : v ≠ .array [])
    (hcons : ∀ w rest, v ≠ .array (w :: rest)) : v.kind ≠ .array := by
  cases v with
  | array items => cases items with
    | nil => exact absurd rfl hnil
    | cons w rest => exact absurd rfl (hcons w rest)
  | _ => simp [kind]

theorem Value.kind_sample_ne_array (v : Value) : v.sample.kind ≠ .array := by
  fun_induction Value.sample v with
  | case1 => decide
  | case2 v rest ih => exact ih
  | case3 v hnil hcons => exact kind_ne_array hnil hcons

namespace FieldType

/-- The type of a field as it is written. -/
def token (key : Text) (v : Value) : Text := (ofValue key v).render

/-- What marks an array of some type. -/
def arrayMark : Text := Text.ofString "[]"

/-- The types that need no declaration. -/
def builtins : List Text := [Kind.string.name, Kind.number.name, Kind.boolean.name, Text.ofString "any"]

/-- A type without the marks of some layers of arrays at its end. -/
def dropMarks : Nat → Text → Text
  | 0, t => t
  | n + 1, t =>
    match List.isSuffixOf? arrayMark t with
    | some element => dropMarks n element
    | none => t

/-- The interface that the type of a field names, if it names one: what is left of the type without
the marks of the arrays in the value, unless that is built in. -/
def recordName? (key : Text) (v : Value) : Option Text :=
  let base := dropMarks v.layers (token key v)
  if builtins.contains base then none else some base

@[simp] theorem token_array_cons (key : Text) (v : Value) (rest : List Value) :
    token key (.array (v :: rest)) = token key v ++ arrayMark := rfl

@[simp] theorem token_array_nil (key : Text) :
    token key (.array []) = Text.ofString "any" ++ arrayMark := rfl

@[simp] theorem token_object (key : Text) (members : Members) :
    token key (.object members) = Naming.pascal key := rfl

@[simp] theorem dropMarks_succ (n : Nat) (t : Text) : dropMarks (n + 1) (t ++ arrayMark) = dropMarks n t := by
  have hsuffix : List.isSuffixOf? arrayMark (t ++ arrayMark) = some t :=
    List.isSuffixOf?_eq_some_iff_append_eq.mpr rfl
  simp [dropMarks, hsuffix]

/-- What marks some layers of arrays. -/
def marks (n : ℕ) : Text := (List.replicate n arrayMark).flatten

@[simp] theorem marks_zero : marks 0 = [] := rfl

/-- One more layer, written behind the others. -/
theorem marks_succ (n : ℕ) : marks (n + 1) = marks n ++ arrayMark := by
  simp [marks, List.replicate_succ']

theorem dropMarks_marks (n : ℕ) (t : Text) : dropMarks n (t ++ marks n) = t := by
  induction n with
  | zero => simp [dropMarks]
  | succ n ih => rw [marks_succ, ← List.append_assoc, dropMarks_succ, ih]

/-- The type of a value is the type of its sample, with a mark for each array around the sample. -/
theorem token_eq_sample (key : Text) (v : Value) :
    token key v = token key v.sample ++ marks v.layers := by
  fun_induction Value.sample v with
  | case1 => rfl
  | case2 v rest ih => rw [token_array_cons, ih, Value.layers, marks_succ, List.append_assoc]
  | case3 v hnil hcons => simp [Value.layers_eq_zero (Value.kind_ne_array hnil hcons)]

/-- Without its marks a type is the type of the sample. -/
theorem dropMarks_token (key : Text) (v : Value) :
    dropMarks v.layers (token key v) = token key v.sample := by
  rw [token_eq_sample, dropMarks_marks]

/-- A type is built in or named after its key, with marks behind it. -/
theorem token_of_key {P : Text → Prop} {key : Text} (hpascal : P (Naming.pascal key))
    (hbuiltins : ∀ t ∈ builtins, P t) (hmark : ∀ t, P t → P (t ++ arrayMark)) (v : Value) :
    P (token key v) := by
  simp only [builtins, List.forall_mem_cons] at hbuiltins
  obtain ⟨hstring, hnumber, hboolean, hany, -⟩ := hbuiltins
  unfold token
  fun_induction ofValue key v with
  | case1 => exact hany
  | case2 => exact hboolean
  | case3 => exact hnumber
  | case4 => exact hnumber
  | case5 => exact hstring
  | case6 => exact hmark _ hany
  | case7 v rest ih => exact hmark _ ih
  | case8 => exact hpascal

theorem builtins_head : ∀ t ∈ builtins, ∃ c ∈ t.head?, c.IsSmallLetter := by decide

/-- No key names an interface like a built-in type. -/
theorem pascal_not_mem_builtins (key : Text) : Naming.pascal key ∉ builtins := by
  intro h
  obtain ⟨c, hc, hsmall⟩ := builtins_head _ h
  exact Naming.not_isSmallLetter_head_pascal hc hsmall

/-- A field names an interface exactly when its sample is an object. -/
theorem recordName?_eq (key : Text) (v : Value) :
    recordName? key v = if v.sample.kind = .object then some (Naming.pascal key) else none := by
  unfold recordName?
  rw [dropMarks_token]
  have harray := v.kind_sample_ne_array
  cases hsample : v.sample with
  | array items => simp [hsample, Value.kind] at harray
  | object members => simp [pascal_not_mem_builtins, Value.kind]
  | _ => simp [Value.kind, token, ofValue, render, builtins]

/-- The type of a value that is no array: an object has an interface named after the key, a null has
any type, and the other kinds are types themselves. -/
def baseName (key : Text) : Kind → Text
  | .object => Naming.pascal key
  | .null => Text.ofString "any"
  | kind => kind.name

/-- What is no array has no marks. -/
theorem token_eq_baseName {v : Value} (h : v.kind ≠ .array) (key : Text) :
    token key v = baseName key v.kind := by
  cases v with
  | array items => exact absurd rfl h
  | _ => rfl

theorem baseName_mem_builtins {kind : Kind} (harray : kind ≠ .array) (hobject : kind ≠ .object)
    (key : Text) : baseName key kind ∈ builtins := by
  cases kind <;> simp_all [baseName, builtins]

/-- Marks do not begin like a built-in type. -/
theorem not_isSmallLetter_head_marks {c : CodePoint} {n : ℕ} (h : (marks n).head? = some c) :
    ¬ c.IsSmallLetter := by
  cases n with
  | zero => cases h
  | succ n =>
    have hc : CodePoint.ofChar '[' = c := Option.some.inj h
    subst hc
    decide

/-- Nor does the name of an interface, with marks behind it. An empty name leaves the marks alone. -/
theorem pascal_append_marks_ne {t : Text} (ht : t ∈ builtins) (key : Text) (m n : ℕ) :
    Naming.pascal key ++ marks m ≠ t ++ marks n := by
  intro h
  obtain ⟨c, hc, hsmall⟩ := builtins_head t ht
  have hhead : (Naming.pascal key ++ marks m).head? = some c := by
    rw [h, List.head?_append, hc, Option.some_or]
  cases hname : Naming.pascal key with
  | nil =>
    rw [hname, List.nil_append] at hhead
    exact not_isSmallLetter_head_marks hhead hsmall
  | cons d rest =>
    rw [hname, List.cons_append, List.head?_cons] at hhead
    apply Naming.not_isSmallLetter_head_pascal (t := key) _ hsmall
    rw [hname, List.head?_cons, hhead]

/-- The type of a field and the sample of its value agree. The type is what the kind of the sample
says, with a mark for each array around the sample, and it is a built-in type with any number of
marks exactly when the sample is no object: no key makes the name of an interface read as one. -/
theorem token_agrees_with_sample (key : Text) (v : Value) :
    v.sample.kind ≠ .array ∧
      token key v = baseName key v.sample.kind ++ marks v.layers ∧
      ((∃ t ∈ builtins, ∃ n, token key v = t ++ marks n) ↔ v.sample.kind ≠ .object) := by
  have harray := v.kind_sample_ne_array
  have htoken : token key v = baseName key v.sample.kind ++ marks v.layers := by
    rw [token_eq_sample, token_eq_baseName harray]
  refine ⟨harray, htoken, ?_, ?_⟩
  · rintro ⟨t, ht, n, hn⟩ hobject
    rw [htoken, hobject] at hn
    exact pascal_append_marks_ne ht key v.layers n hn
  · intro hobject
    exact ⟨_, baseName_mem_builtins harray hobject key, v.layers, htoken⟩

end FieldType

end JsonTypings
