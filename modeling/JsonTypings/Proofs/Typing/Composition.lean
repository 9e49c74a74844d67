import JsonTypings.Proofs.Typing.Discovery
import Mathlib.Data.List.Basic
import Mathlib.Logic.Function.Iterate

/-! The interfaces of a document are put together from those of its parts. Behind the interface of the
document itself come, field by field, all interfaces of the objects in the fields, so the text for an
object inside of a document is a stretch of the text for the document. -/
namespace JsonTypings

namespace Value

/-- Stepping into first elements ends at the sample, or at an empty array, which has a null for its
sample. -/
theorem exists_iterate_firstElement (v : Value) :
    ∃ n, (firstElement^[n] v).firstElement = firstElement^[n] v ∧
      (firstElement^[n] v = v.sample ∨ firstElement^[n] v = .array [] ∧ v.sample = .null) := by
  fun_induction sample v with
  | case1 => exact ⟨0, rfl, .inr ⟨rfl, rfl⟩⟩
  | case2 v rest ih =>
    obtain ⟨n, hend, hsample⟩ := ih
    exact ⟨n + 1, hend, hsample⟩
  | case3 v hnil hcons =>
    refine ⟨0, ?_, .inl rfl⟩
    cases v with
    | array items => exact absurd rfl (kind_ne_array hnil hcons)
    | _ => rfl

/-- Where first elements lead no further, the members are those that describe the document. -/
theorem rootMembers_eq_of_firstElement {v : Value} {n : Nat}
    (hend : (firstElement^[n] v).firstElement = firstElement^[n] v) :
    v.rootMembers = (firstElement^[n] v).members := by
  induction n generalizing v with
  | zero =>
    cases v with
    | array items =>
      cases items with
      | nil => rfl
      | cons w rest =>
        have hsize := congrArg sizeOf hend
        simp [firstElement] at hsize
        omega
    | _ => rfl
  | succ n ih =>
    rw [Function.iterate_succ_apply] at hend ⊢
    rw [← ih hend]
    cases v with
    | array items => cases items <;> rfl
    | _ => rfl

end Value

namespace Declaration

/-- Declarations that stand behind another one, each after a blank line. -/
def renderFollowing (ds : List Declaration) : Text := ds.flatMap fun d => Text.ofString "\n\n" ++ d.render

theorem renderAll_cons (d : Declaration) (ds : List Declaration) :
    renderAll (d :: ds) = d.render ++ renderFollowing ds := by
  induction ds generalizing d with
  | nil => simp [renderAll, renderFollowing]
  | cons next ds ih =>
    have hnext := ih next
    simp only [renderAll, renderFollowing, List.map_cons, List.flatMap_cons] at hnext ⊢
    rw [List.intercalate_cons_cons, hnext]
    simp only [List.append_assoc]

theorem renderFollowing_cons (d : Declaration) (ds : List Declaration) :
    renderFollowing (d :: ds) = Text.ofString "\n\n" ++ renderAll (d :: ds) := by
  rw [renderAll_cons, renderFollowing, List.flatMap_cons, List.append_assoc, renderFollowing]

end Declaration

open Declaration

/-- The text for an object that stands behind other interfaces. -/
def describeFollowing (name : Text) (v : Value) : Text :=
  if v.sample.kind = .object then Text.ofString "\n\n" ++ describe name v.sample else []

/-- A walk through a value finds the interfaces of its sample. -/
theorem renderFollowing_below (name : Text) (v : Value) :
    renderFollowing ((Shape.below name v).map ofShape) = describeFollowing name v := by
  rw [describeFollowing]
  split
  · rename_i hobject
    obtain ⟨members, hsample⟩ := Value.kind_eq_object_iff.mp hobject
    rw [← Shape.below_sample, hsample, Shape.below_object, List.map_cons, renderFollowing_cons,
      describe, declarations_eq, Value.rootMembers, Shape.below_object, List.map_cons]
  · rename_i hother
    rw [Shape.below_eq_nil hother]
    rfl

/-- The text for an object is its own interface and the texts for its members. -/
theorem describe_eq (root : Text) (v : Value) :
    describe root v = (ofMembers root v.sample.members).render ++
      v.sample.members.flatMap fun m => describeFollowing (Naming.pascal m.1) m.2 := by
  have hmembers (ms : Members) :
      renderFollowing ((ms.flatMap fun m => Shape.below (Naming.pascal m.1) m.2).map ofShape) =
        ms.flatMap fun m => describeFollowing (Naming.pascal m.1) m.2 := by
    induction ms with
    | nil => rfl
    | cons m rest ih =>
      rw [List.flatMap_cons, List.flatMap_cons, ← ih, ← renderFollowing_below]
      simp [renderFollowing]
  rw [describe, declarations_eq, Value.rootMembers_eq, Shape.below_object, List.map_cons,
    renderAll_cons, hmembers]
  rfl

/-- The text for the value of a member is a stretch of the text for the object. -/
theorem describe_infix_of_member {members : Members} {m : Text × Value} (hm : m ∈ members)
    (hobject : m.2.sample.kind = .object) (name : Text) :
    describe (Naming.pascal m.1) m.2 <:+: describe name (.object members) := by
  have hfollowing : describe (Naming.pascal m.1) m.2 <:+: describeFollowing (Naming.pascal m.1) m.2 := by
    rw [describeFollowing, if_pos hobject, describe_sample]
    exact (List.suffix_append _ _).isInfix
  have hmembers : describeFollowing (Naming.pascal m.1) m.2 <:+:
      members.flatMap fun m => describeFollowing (Naming.pascal m.1) m.2 := by
    rw [List.flatMap_def]
    exact List.infix_of_mem_flatten (List.mem_map_of_mem hm)
  rw [describe_eq name (.object members)]
  exact (hfollowing.trans hmembers).trans (List.suffix_append _ _).isInfix

/-- So is the text for each object that a walk finds, at any depth. -/
theorem describe_infix_of_mem_below {name : Text} {v : Value} {s : Shape} (hs : s ∈ Shape.below name v) :
    describe s.name s.node <:+: describe name v := by
  induction v using Value.induction generalizing name with
  | array items ih =>
    cases items with
    | nil =>
      rw [Shape.below_eq_nil (by decide)] at hs
      cases hs
    | cons v rest =>
      rw [Shape.below_array_cons] at hs
      rw [describe_array_cons]
      exact ih v List.mem_cons_self hs
  | object members ih =>
    rw [Shape.below_object, List.mem_cons, List.mem_flatMap] at hs
    rcases hs with rfl | ⟨m, hm, hs⟩
    · exact List.infix_rfl
    · have hobject : m.2.sample.kind = .object := by
        by_contra hother
        simp [Shape.below_eq_nil hother] at hs
      exact (ih m hm hs).trans (describe_infix_of_member hm hobject name)
  | _ =>
    rw [Shape.below_eq_nil (by simp [Value.sample, Value.kind])] at hs
    cases hs

/-- Describing is compositional. All texts of a value have one text of interfaces, that of its sample,
which is where stepping into first elements leads; it is the interface of the sample, and then field by
field, after a blank line, the text for each object that is the sample of a field. The text for every
object that is found, however deep, is a stretch of the whole. -/
theorem describe_compositional (root : Text) (v : Value) :
    (∀ w name t, Json.read t = .ok w → generate (.text t) name = .ok (describe name w)) ∧
      (∃ n, (Value.firstElement^[n] v).firstElement = Value.firstElement^[n] v ∧
        v.rootMembers = (Value.firstElement^[n] v).members ∧ v.rootMembers = v.sample.members) ∧
      describe root v = (ofMembers root v.sample.members).render ++
        v.sample.members.flatMap (fun m => describeFollowing (Naming.pascal m.1) m.2) ∧
      ∃ found, Shape.all root (.object v.sample.members) = .ok found ∧
        ∀ s ∈ found, describe s.name s.node <:+: describe root v := by
  refine ⟨?_, ?_, describe_eq root v, ?_⟩
  · intro w name t ht
    exact generate_text_eq_ok.mpr ⟨w, ht, rfl⟩
  · obtain ⟨n, hend, hsample⟩ := v.exists_iterate_firstElement
    refine ⟨n, hend, ?_, v.rootMembers_eq⟩
    rw [v.rootMembers_eq]
    rcases hsample with hsample | ⟨hempty, hnull⟩
    · rw [hsample]
    · rw [hempty, hnull]
      rfl
  · obtain ⟨found, hall, hfound⟩ := Shape.all_object root v.sample.members
    refine ⟨found, hall, ?_⟩
    intro s hs
    have hwhole : describe root (.object v.sample.members) = describe root v := by
      rw [describe, describe, declarations, declarations, v.rootMembers_eq, Value.rootMembers]
    rw [← hwhole]
    apply describe_infix_of_mem_below
    rw [← hfound]
    exact Array.mem_toList_iff.mpr hs

end JsonTypings
