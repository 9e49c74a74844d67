import JsonTypings.Proofs.Typing.Discovery
import Mathlib.Data.Multiset.MapFold

/-! The order of keys does not reach the types. Two documents that differ in nothing but the order
of the members of their objects have the same declarations, in another order and with the fields of
each in another order. -/
namespace JsonTypings

namespace Value

/-- Values that differ at most in the order of the members of objects, at any depth. Items of arrays
keep their order. -/
inductive Reordered : Value → Value → Prop
  | same (v : Value) : Reordered v v
  | array (pairs : List (Value × Value)) (h : ∀ p ∈ pairs, Reordered p.1 p.2) :
    Reordered (.array (pairs.map Prod.fst)) (.array (pairs.map Prod.snd))
  /-- Each member keeps its key and has a reordered value, and then the members change places. -/
  | object (entries : List (Text × Value × Value)) {members : Members}
    (h : ∀ e ∈ entries, Reordered e.2.1 e.2.2)
    (hperm : (entries.map fun e => (e.1, e.2.2)).Perm members) :
    Reordered (.object (entries.map fun e => (e.1, e.2.1))) (.object members)

/-- Members may change places and keep their values. -/
theorem Reordered.of_perm {members others : Members} (h : members.Perm others) :
    Reordered (.object members) (.object others) := by
  have hsame := Reordered.object (members.map fun m => (m.1, m.2, m.2))
    (List.forall_mem_map.mpr fun m _ => .same m.2) (by simpa [Function.comp_def] using h)
  simpa [Function.comp_def] using hsame

end Value

open Value

theorem FieldType.ofValue_reordered {v w : Value} (h : Reordered v w) (key : Text) :
    FieldType.ofValue key v = FieldType.ofValue key w := by
  induction h with
  | same v => rfl
  | array pairs _ ih =>
    cases pairs with
    | nil => rfl
    | cons p rest => simp only [List.map_cons, FieldType.ofValue, ih p List.mem_cons_self]
  | object _ _ _ _ => simp only [FieldType.ofValue]

/-- A null stays a null, and any other value has the type that it had. -/
theorem Field.ofMember_reordered {v w : Value} (h : Reordered v w) (key : Text) :
    Field.ofMember key v = Field.ofMember key w := by
  have htype := FieldType.ofValue_reordered h key
  cases h with
  | same v => rfl
  | array _ _ => simp only [Field.ofMember, htype]
  | object _ _ _ => simp only [Field.ofMember, htype]

/-- What a declaration says apart from the order of its fields: a name, and the lines of the fields. -/
def Declaration.outline (d : Declaration) : Text × Multiset Text :=
  (d.name, Multiset.ofList (d.fields.map Field.render))

/-- The outline of the declaration of a shape. -/
def Shape.outline (s : Shape) : Text × Multiset Text := (Declaration.ofShape s).outline

theorem Shape.outline_object (name : Text) (members : Members) :
    Shape.outline ⟨name, .object members⟩ =
      (name, Multiset.ofList (members.map fun m => (Field.ofMember m.1 m.2).render)) := by
  simp [Shape.outline, Declaration.outline, Declaration.ofShape, Declaration.ofMembers,
    Function.comp_def]

/-- The members of an object may change places, and so may those of the objects in them. -/
theorem Shape.outline_reordered {entries : List (Text × Value × Value)} {members : Members}
    (h : ∀ e ∈ entries, Reordered e.2.1 e.2.2)
    (hperm : (entries.map fun e => (e.1, e.2.2)).Perm members) (name : Text) :
    Shape.outline ⟨name, .object (entries.map fun e => (e.1, e.2.1))⟩ =
      Shape.outline ⟨name, .object members⟩ := by
  have hlines : (entries.map fun e => (e.1, e.2.1)).map (fun m => (Field.ofMember m.1 m.2).render) =
      (entries.map fun e => (e.1, e.2.2)).map fun m => (Field.ofMember m.1 m.2).render := by
    rw [List.map_map, List.map_map]
    refine List.map_congr_left fun e he => ?_
    exact congrArg Field.render (Field.ofMember_reordered (h e he) e.1)
  rw [Shape.outline_object, Shape.outline_object, hlines]
  exact congrArg (Prod.mk name) (Multiset.coe_eq_coe.mpr (hperm.map _))

/-- The walk through a reordered value finds the same outlines. -/
theorem Shape.below_reordered {v w : Value} (h : Reordered v w) (name : Text) :
    ((Shape.below name v).map Shape.outline).Perm ((Shape.below name w).map Shape.outline) := by
  induction h generalizing name with
  | same v => exact .refl _
  | array pairs _ ih =>
    cases pairs with
    | nil => exact .refl _
    | cons p rest =>
      rw [List.map_cons, List.map_cons, Shape.below_array_cons, Shape.below_array_cons]
      exact ih p List.mem_cons_self name
  | @object entries members hentries hperm ih =>
    let outlines (m : Text × Value) : List (Text × Multiset Text) :=
      (Shape.below (Naming.pascal m.1) m.2).map Shape.outline
    -- First the values of the members are reordered in their places, then the members themselves.
    have hvalues : ((entries.map fun e => (e.1, e.2.1)).flatMap outlines).Perm
        ((entries.map fun e => (e.1, e.2.2)).flatMap outlines) := by
      rw [List.flatMap_map, List.flatMap_map]
      exact List.Perm.flatMap_left entries fun e he => ih e he (Naming.pascal e.1)
    have hplaces : ((entries.map fun e => (e.1, e.2.2)).flatMap outlines).Perm
        (members.flatMap outlines) := hperm.flatMap_right outlines
    have hown := Shape.outline_reordered hentries hperm name
    rw [Shape.below_object, Shape.below_object, List.map_cons, List.map_cons, List.map_flatMap,
      List.map_flatMap, hown]
    exact (hvalues.trans hplaces).cons _

/-- The order of keys does not change the types. The declarations of two objects that are equal up
to the order of members, at any depth, are permutations of each other, each taken as its name and
the lines of its fields in any order. -/
theorem declarations_perm_of_reordered (root : Text) {members others : Members}
    (h : Reordered (.object members) (.object others)) :
    ∃ found found' : Array Shape, Shape.all root (.object members) = .ok found ∧
      Shape.all root (.object others) = .ok found' ∧
      ((found.toList.map Declaration.ofShape).map Declaration.outline).Perm
        ((found'.toList.map Declaration.ofShape).map Declaration.outline) := by
  obtain ⟨found, hall, hfound⟩ := Shape.all_object root members
  obtain ⟨found', hall', hfound'⟩ := Shape.all_object root others
  refine ⟨found, found', hall, hall', ?_⟩
  rw [hfound, hfound', List.map_map, List.map_map]
  exact Shape.below_reordered h root

/-- Two objects that need interfaces of one name, one of them within two arrays, and an object in that
one. -/
def placesInOrder : Members :=
  [(Text.ofString "geo", .object [(Text.ofString "lat", .int 1), (Text.ofString "note", .null)]),
    (Text.ofString "Geo", .array [.array [.object [(Text.ofString "tags", .array []),
      (Text.ofString "sub-geo", .object [(Text.ofString "x", .int 2),
        (Text.ofString "y", .bool true)])]]])]

/-- The same with all members in the opposite order. -/
def placesReversed : Members :=
  [(Text.ofString "Geo", .array [.array [.object [(Text.ofString "sub-geo",
      .object [(Text.ofString "y", .bool true), (Text.ofString "x", .int 2)]),
      (Text.ofString "tags", .array [])]]]),
    (Text.ofString "geo", .object [(Text.ofString "note", .null), (Text.ofString "lat", .int 1)])]

theorem reordered_places : Reordered (.object placesInOrder) (.object placesReversed) := by
  have hsub := Reordered.of_perm (.swap (Text.ofString "y", .bool true) (Text.ofString "x", .int 2) [])
  have hinner := Reordered.object
    [(Text.ofString "tags", .array [], .array []), (Text.ofString "sub-geo", _, _)]
    (by simpa using ⟨.same _, hsub⟩) (.swap _ _ [])
  have hrow := Reordered.array [(_, _)] (by simpa using hinner)
  have hgrid := Reordered.array [(_, _)] (by simpa using hrow)
  have hgeo := Reordered.of_perm (.swap (Text.ofString "note", .null) (Text.ofString "lat", .int 1) [])
  exact Reordered.object [(Text.ofString "geo", _, _), (Text.ofString "Geo", _, _)]
    (by simpa using ⟨hgeo, hgrid⟩) (.swap _ _ [])

/-- The places have the names of their interfaces in two orders. -/
theorem declarations_perm_of_reordered_places :
    ∃ found found' : Array Shape,
      Shape.all defaultRootName (.object placesInOrder) = .ok found ∧
      Shape.all defaultRootName (.object placesReversed) = .ok found' ∧
      found.toList.map Shape.name ≠ found'.toList.map Shape.name ∧
      ((found.toList.map Declaration.ofShape).map Declaration.outline).Perm
        ((found'.toList.map Declaration.ofShape).map Declaration.outline) := by
  obtain ⟨found, found', hall, hall', hperm⟩ :=
    declarations_perm_of_reordered defaultRootName reordered_places
  refine ⟨found, found', hall, hall', ?_, hperm⟩
  obtain rfl := Except.ok.inj hall
  obtain rfl := Except.ok.inj hall'
  decide

end JsonTypings
