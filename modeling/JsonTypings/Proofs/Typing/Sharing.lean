import JsonTypings.Proofs.Typing.Discovery
import Mathlib.Logic.Relation

/-! Discoveries that share one list. Each adds to the list what it would find alone, and a node that is
refused is left in it, by itself. Inside of a discovery nothing is refused. -/
namespace JsonTypings.Shape

/-- A node that is discovered under a name, and the list that its shapes are added to. -/
structure Call where
  found : Array Shape
  name : Text
  node : Value

/-- The list behind a call, and the refusal that ends the call if there is one. -/
def Call.outcome (c : Call) : Array Shape × Option NotAnObject := discover c.found c.name c.node

/-! One call -/

/-- One round over the members of a node: the sample of a member is discovered like the node itself, if
it is an object. A refusal ends the rounds. -/
def round (state : Array Shape × Option NotAnObject) (m : Text × Value) :
    Array Shape × Option NotAnObject :=
  match state with
  | (found, some refusal) => (found, some refusal)
  | (found, none) =>
    if m.2.sample.kind = .object then (Call.mk found (Naming.pascal m.1) m.2.sample).outcome
    else (found, none)

/-- A node with its name is first, and then come the shapes of its members. -/
theorem outcome_object (found : Array Shape) (name : Text) (members : Members) :
    (Call.mk found name (.object members)).outcome =
      (walk found name (.object members), none) := by
  rw [Call.outcome, discover, walk]

theorem round_eq_walk (found : Array Shape) (m : Text × Value) :
    round (found, none) m = (walk found (Naming.pascal m.1) m.2, none) := by
  have hsample := walk_sample found (Naming.pascal m.1) m.2
  rw [round]
  split_ifs with hobject
  · obtain ⟨members, hmembers⟩ := Value.kind_eq_object_iff.mp hobject
    rw [← hsample, hmembers, outcome_object]
  · have hsame : walk found (Naming.pascal m.1) m.2.sample = found := by
      have harray := m.2.kind_sample_ne_array
      cases hv : m.2.sample with
      | array items => exact absurd (by rw [hv]; rfl) harray
      | object members => exact absurd (by rw [hv]; rfl) hobject
      | _ => rw [walk] <;> simp
    rw [← hsample, hsame]

theorem foldl_round (members : Members) (found : Array Shape) :
    members.foldl round (found, none) = (walkMembers found members, none) := by
  induction members generalizing found with
  | nil => rw [walkMembers, List.foldl_nil]
  | cons m rest ih => rw [List.foldl_cons, round_eq_walk, ih, walkMembers]

/-- A call adds its node and then goes round the members. -/
theorem outcome_eq_rounds (found : Array Shape) (name : Text) (members : Members) :
    (Call.mk found name (.object members)).outcome =
      members.foldl round (found.push ⟨name, .object members⟩, none) := by
  rw [foldl_round, outcome_object, walk]

/-- The calls that a call makes: for the sample of a member that is an object, when all rounds before
it have come to their end. -/
inductive Call.Makes : Call → Call → Prop
  | member {found now : Array Shape} {name key : Text} {v : Value} {before after : Members}
    (hbefore : before.foldl round
      (found.push ⟨name, .object (before ++ (key, v) :: after)⟩, none) = (now, none))
    (hobject : v.sample.kind = .object) :
    Makes ⟨found, name, .object (before ++ (key, v) :: after)⟩ ⟨now, Naming.pascal key, v.sample⟩

theorem Call.Makes.kind_node {c d : Call} (h : c.Makes d) : d.node.kind = .object := by
  cases h with
  | member _ hobject => exact hobject

/-- An object is not refused. Behind what was found before come the shapes that it has alone. -/
theorem outcome_of_object {c : Call} (h : c.node.kind = .object) :
    ∃ own, all c.name c.node = .ok own ∧ c.outcome = (c.found ++ own, none) := by
  obtain ⟨found, name, node⟩ := c
  obtain ⟨members, rfl⟩ := Value.kind_eq_object_iff.mp h
  obtain ⟨own, hall, hown⟩ := all_object name members
  refine ⟨own, hall, ?_⟩
  rw [outcome_object]
  congr 1
  apply Array.toList_inj.mp
  rw [toList_walk, Array.toList_append, hown]

/-- Anything else is refused, when it is already in the list. -/
theorem outcome_of_not_object {c : Call} (h : c.node.kind ≠ .object) :
    c.outcome = (c.found.push ⟨c.name, c.node⟩, some ⟨c.node.typeName⟩) := by
  obtain ⟨found, name, node⟩ := c
  cases node with
  | object members => exact absurd rfl h
  | _ => rfl

/-! Calls in a row -/

/-- The list that some calls share when they are over. What a refused call has added stays. -/
def shared (found : Array Shape) (nodes : List Shape) : Array Shape :=
  nodes.foldl (fun found s => (Call.mk found s.name s.node).outcome.1) found

/-- What one call adds: the shapes of an object, and any other node by itself. -/
def added (s : Shape) : List Shape := if s.node.kind = .object then below s.name s.node else [s]

theorem toList_outcome (found : Array Shape) (s : Shape) :
    (Call.mk found s.name s.node).outcome.1.toList = found.toList ++ s.added := by
  rw [added]
  split_ifs with hobject
  · obtain ⟨members, hmembers⟩ := Value.kind_eq_object_iff.mp hobject
    rw [hmembers, outcome_object, toList_walk]
  · rw [outcome_of_not_object hobject, Array.toList_push]

/-- The calls leave what was in the list before, and each adds its own. -/
theorem toList_shared (found : Array Shape) (nodes : List Shape) :
    (shared found nodes).toList = found.toList ++ nodes.flatMap added := by
  induction nodes generalizing found with
  | nil => simp [shared]
  | cons s rest ih =>
    have hrest := ih (Call.mk found s.name s.node).outcome.1
    rw [toList_outcome] at hrest
    rw [List.flatMap_cons, ← List.append_assoc, ← hrest, shared, List.foldl_cons, shared]

theorem getElem?_shared_append {found : Array Shape} (earlier later : List Shape) {i : Nat}
    (h : i < (shared found earlier).size) :
    (shared found (earlier ++ later))[i]? = (shared found earlier)[i]? := by
  have hparts : (shared found (earlier ++ later)).toList =
      (shared found earlier).toList ++ later.flatMap added := by
    rw [toList_shared, toList_shared, List.flatMap_append, List.append_assoc]
  rw [← Array.getElem?_toList, ← Array.getElem?_toList, hparts]
  exact List.getElem?_append_left (by rwa [Array.length_toList])

/-- A shared list only grows. Whatever it held at first and whatever calls came before, a call adds to
it the shapes that an object has alone, or else the node by itself, and then and only then the call is
refused. No entry is changed by this call or a later one. A call goes round the members of its object,
and none of the calls that are made there, at any depth, is refused. -/
theorem shared_list_grows (found : Array Shape) (earlier later : List Shape) (s : Shape) :
    (s.node.kind = .object →
      ∃ own, all s.name s.node = .ok own ∧
        (Call.mk (shared found earlier) s.name s.node).outcome = (shared found earlier ++ own, none)) ∧
      (s.node.kind ≠ .object →
        (Call.mk (shared found earlier) s.name s.node).outcome =
          ((shared found earlier).push s, some ⟨s.node.typeName⟩)) ∧
      (∀ i, i < (shared found earlier).size →
        (shared found (earlier ++ s :: later))[i]? = (shared found earlier)[i]?) ∧
      (∀ now name members, (Call.mk now name (.object members)).outcome =
        members.foldl round (now.push ⟨name, .object members⟩, none)) ∧
      ∀ c, Relation.TransGen Call.Makes ⟨shared found earlier, s.name, s.node⟩ c →
        ∃ own, all c.name c.node = .ok own ∧ c.outcome = (c.found ++ own, none) := by
  refine ⟨?_, ?_, ?_, outcome_eq_rounds, ?_⟩
  · intro hobject
    exact outcome_of_object (c := ⟨shared found earlier, s.name, s.node⟩) hobject
  · intro hother
    exact outcome_of_not_object (c := ⟨shared found earlier, s.name, s.node⟩) hother
  · intro i hi
    exact getElem?_shared_append earlier (s :: later) hi
  · intro c hc
    obtain ⟨b, -, hmakes⟩ := Relation.TransGen.tail'_iff.mp hc
    exact outcome_of_object hmakes.kind_node

end JsonTypings.Shape
