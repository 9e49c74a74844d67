import JsonTypings.Proofs.Json.Language
import JsonTypings.Proofs.Typing.Discovery

/-! A document inside of arrays. As long as it comes first in each of them, its interfaces are those
of the arrays. -/
namespace JsonTypings

open Json (Denotes read_eq_ok denotes_of_read commaSeparated)

/-- The text of an array of the given texts. -/
def bracketed (ts : List Text) : Text :=
  CodePoint.ofChar '[' :: (commaSeparated ts ++ [CodePoint.ofChar ']'])

/-- A text inside of arrays, innermost first, with further texts behind it in each. -/
def wrapped (t : Text) (levels : List (List Text)) : Text :=
  levels.foldl (fun t others => bracketed (t :: others)) t

/-- Texts that are read, each with its value. -/
theorem exists_items {ts : List Text} (h : ∀ t ∈ ts, ∃ v, Json.read t = .ok v) :
    ∃ items : List (Text × Value), items.map Prod.fst = ts ∧ ∀ i ∈ items, Denotes i.1 i.2 := by
  induction ts with
  | nil => exact ⟨[], rfl, by simp⟩
  | cons t ts ih =>
    obtain ⟨⟨v, hv⟩, hrest⟩ := List.forall_mem_cons.mp h
    obtain ⟨items, rfl, hitems⟩ := ih hrest
    exact ⟨(t, v) :: items, rfl, List.forall_mem_cons.mpr ⟨denotes_of_read hv, hitems⟩⟩

/-- Texts that are read make up an array that is read, with the value of the first text in front. -/
theorem read_bracketed {t : Text} {v : Value} {others : List Text} (ht : Json.read t = .ok v)
    (hothers : ∀ u ∈ others, ∃ w, Json.read u = .ok w) :
    ∃ rest, Json.read (bracketed (t :: others)) = .ok (.array (v :: rest)) := by
  obtain ⟨items, rfl, hitems⟩ := exists_items hothers
  have hall : ∀ i ∈ (t, v) :: items, Denotes i.1 i.2 :=
    List.forall_mem_cons.mpr ⟨denotes_of_read ht, hitems⟩
  have harray := Denotes.array (by simp) hall
  exact ⟨items.map Prod.snd, read_eq_ok.mpr ⟨Json.unmarked_cons (by decide) _, harray⟩⟩

/-- However deep a document is wrapped, it is read, and described like by itself. -/
theorem read_wrapped {t : Text} {v : Value} {levels : List (List Text)} (ht : Json.read t = .ok v)
    (hlevels : ∀ others ∈ levels, ∀ u ∈ others, ∃ w, Json.read u = .ok w) :
    ∃ w, Json.read (wrapped t levels) = .ok w ∧ ∀ root, describe root w = describe root v := by
  induction levels generalizing t v with
  | nil => exact ⟨v, ht, fun _ => rfl⟩
  | cons others levels ih =>
    obtain ⟨hothers, hrest⟩ := List.forall_mem_cons.mp hlevels
    obtain ⟨rest, hread⟩ := read_bracketed ht hothers
    obtain ⟨w, hw, hdescribe⟩ := ih hread hrest
    exact ⟨w, hw, fun root => (hdescribe root).trans (describe_array_cons root v rest)⟩

/-- What is no object behind all its arrays gives an interface without fields. -/
theorem describe_of_kind_sample {v : Value} (h : v.sample.kind ≠ .object) (root : Text) :
    describe root v = Text.ofString "export interface " ++ root ++ Text.ofString " \x7b\n\x7d" := by
  have hroot : v.rootMembers = [] := by
    rw [v.rootMembers_eq]
    cases hsample : v.sample with
    | object members => exact absurd (by rw [hsample]; rfl) h
    | _ => rfl
  rw [describe, declarations_eq, hroot, Shape.below_object]
  simp [Declaration.renderAll, Declaration.render, Declaration.ofShape, Declaration.ofMembers,
    Text.ofString]

/-- A text that comes first in each of some nested arrays gives the same interfaces as the arrays.
If its value is no object behind all arrays of its own, that is one interface without fields. -/
theorem generate_wrapped (root t : Text) (v : Value) (levels : List (List Text))
    (ht : Json.read t = .ok v)
    (hlevels : ∀ others ∈ levels, ∀ u ∈ others, ∃ w, Json.read u = .ok w) :
    generate (.text (wrapped t levels)) root = generate (.text t) root ∧
      (v.sample.kind ≠ .object → generate (.text (wrapped t levels)) root =
        .ok (Text.ofString "export interface " ++ root ++ Text.ofString " \x7b\n\x7d")) := by
  obtain ⟨w, hw, hdescribe⟩ := read_wrapped ht hlevels
  have hwrapped : generate (.text (wrapped t levels)) root = .ok (describe root v) :=
    generate_text_eq_ok.mpr ⟨w, hw, hdescribe root⟩
  have halone : generate (.text t) root = .ok (describe root v) :=
    generate_text_eq_ok.mpr ⟨v, ht, rfl⟩
  refine ⟨hwrapped.trans halone.symm, fun h => ?_⟩
  rw [hwrapped, describe_of_kind_sample h]

/-- A number behind a blank, in front of other values on two levels, and an object in its place. -/
theorem generate_wrapped_number :
    generate (.text (Text.ofString "[[ 5,null,\x7b\"a\":1\x7d],[]]")) defaultRootName =
        generate (.text (Text.ofString " 5")) defaultRootName ∧
      generate (.text (Text.ofString "[[ 5,null,\x7b\"a\":1\x7d],[]]")) defaultRootName =
        .ok (Text.ofString "export interface RootObject \x7b\n\x7d") ∧
      generate (.text (Text.ofString "[[ \x7b\"b-c\":[7]\x7d,null,\x7b\"a\":1\x7d],[]]")) defaultRootName =
        .ok (Text.ofString "export interface RootObject \x7b\n  bC: number[];\n\x7d") := by
  have hothers :
      ∀ others ∈ [[Text.ofString "null", Text.ofString "\x7b\"a\":1\x7d"], [Text.ofString "[]"]],
      ∀ u ∈ others, ∃ w, Json.read u = .ok w := by
    simp only [List.forall_mem_cons, List.not_mem_nil, false_implies, implies_true, and_true]
    exact ⟨⟨⟨.null, rfl⟩, ⟨.object [(Text.ofString "a", .int 1)], rfl⟩⟩, ⟨.array [], rfl⟩⟩
  obtain ⟨hsame, hempty⟩ := generate_wrapped defaultRootName (Text.ofString " 5") (.int 5) _ rfl hothers
  have hobject : Json.read (Text.ofString " \x7b\"b-c\":[7]\x7d") =
      .ok (.object [(Text.ofString "b-c", .array [.int 7])]) := rfl
  have halone : generate (.text (Text.ofString " \x7b\"b-c\":[7]\x7d")) defaultRootName =
      .ok (Text.ofString "export interface RootObject \x7b\n  bC: number[];\n\x7d") :=
    generate_text_eq_ok.mpr ⟨_, hobject, by decide +kernel⟩
  exact ⟨hsame, hempty (by decide), (generate_wrapped defaultRootName _ _ _ hobject hothers).1.trans halone⟩

end JsonTypings
