import JsonTypings.Proofs.Typing.Token
import JsonTypings.Proofs.Value.Induction
import JsonTypings.Typing.Document

/-! The shapes of a document as a list. What a walk adds does not depend on what was found before,
and the shapes of an object are its own and those of its members, in order. -/
namespace JsonTypings

namespace Shape

/-- The shapes that walking a value adds. -/
def below (name : Text) (v : Value) : List Shape := (walk #[] name v).toList

/-- Members are walked one after the other, as soon as this holds of each of them. -/
theorem toList_walkMembers_of {members : Members}
    (h : ∀ m ∈ members, ∀ found name, (walk found name m.2).toList = found.toList ++ below name m.2)
    (found : Array Shape) :
    (walkMembers found members).toList =
      found.toList ++ members.flatMap fun m => below (Naming.pascal m.1) m.2 := by
  induction members generalizing found with
  | nil => simp [walkMembers]
  | cons m rest ih =>
    obtain ⟨key, v⟩ := m
    have hv := h (key, v) List.mem_cons_self found (Naming.pascal key)
    rw [walkMembers, ih (fun m hm => h m (List.mem_cons_of_mem _ hm)), hv]
    simp

/-- A walk leaves what was found before, and adds what it would have found alone. -/
theorem toList_walk (found : Array Shape) (name : Text) (v : Value) :
    (walk found name v).toList = found.toList ++ below name v := by
  induction v using Value.induction generalizing found name with
  | array items ih =>
    cases items with
    | nil => simp [below, walk]
    | cons v rest =>
      have hv := ih v List.mem_cons_self found name
      simpa [below, walk] using hv
  | object members ih =>
    simp only [below, walk, toList_walkMembers_of ih, Array.toList_push, List.append_assoc]
    simp
  | _ => simp [below, walk]

theorem toList_walkMembers (found : Array Shape) (members : Members) :
    (walkMembers found members).toList =
      found.toList ++ members.flatMap fun m => below (Naming.pascal m.1) m.2 :=
  toList_walkMembers_of (fun _ _ found name => toList_walk found name _) found

@[simp] theorem below_object (name : Text) (members : Members) :
    below name (.object members) =
      ⟨name, .object members⟩ :: members.flatMap fun m => below (Naming.pascal m.1) m.2 := by
  simp [below, walk, toList_walkMembers]

@[simp] theorem below_array_cons (name : Text) (v : Value) (rest : List Value) :
    below name (.array (v :: rest)) = below name v := by
  simp [below, walk]

theorem below_sample (name : Text) (v : Value) : below name v.sample = below name v := by
  rw [below, walk_sample, below]

/-- Only an object adds shapes. -/
theorem below_eq_nil {name : Text} {v : Value} (h : v.sample.kind ≠ .object) : below name v = [] := by
  rw [← below_sample]
  cases hsample : v.sample with
  | array items => exact absurd (by rw [hsample]; rfl) v.kind_sample_ne_array
  | object members => exact absurd (by rw [hsample]; rfl) h
  | _ => rfl

/-- The shapes of an object are found without fail. -/
theorem all_object (name : Text) (members : Members) :
    ∃ found, all name (.object members) = .ok found ∧ found.toList = below name (.object members) :=
  ⟨walk #[] name (.object members), rfl, rfl⟩

end Shape

theorem declarations_eq (root : Text) (document : Value) :
    declarations root document =
      (Shape.below root (.object document.rootMembers)).map Declaration.ofShape := rfl

theorem ofShape_mem_declarations {root : Text} {document : Value} {s : Shape}
    (hs : s ∈ Shape.below root (.object document.rootMembers)) :
    Declaration.ofShape s ∈ declarations root document := by
  rw [declarations_eq]
  exact List.mem_map_of_mem hs

namespace Value

theorem sample_of_kind {v : Value} (h : v.kind ≠ .array) : v.sample = v := by
  cases v with
  | array items => exact absurd rfl h
  | _ => rfl

@[simp] theorem sample_sample (v : Value) : v.sample.sample = v.sample :=
  sample_of_kind v.kind_sample_ne_array

/-- The object that describes a document is its sample, if that is one. -/
theorem rootMembers_eq (v : Value) : v.rootMembers = v.sample.members := by
  fun_induction sample v with
  | case1 => rfl
  | case2 v rest ih => exact ih
  | case3 v hnil hcons =>
    cases v with
    | array items => exact absurd rfl (kind_ne_array hnil hcons)
    | _ => rfl

end Value

theorem describe_sample (root : Text) (v : Value) : describe root v.sample = describe root v := by
  rw [describe, describe, declarations, declarations, Value.rootMembers_eq, Value.rootMembers_eq,
    Value.sample_sample]

/-- An array is described like its first item. -/
theorem describe_array_cons (root : Text) (v : Value) (rest : List Value) :
    describe root (.array (v :: rest)) = describe root v := by
  rw [describe, describe, declarations, declarations, Value.rootMembers]

/-- A text has interfaces exactly when it can be read, and they are those of what is read. -/
theorem generate_text_eq_ok {t root out : Text} :
    generate (.text t) root = .ok out ↔
      ∃ document, Json.read t = .ok document ∧ describe root document = out := by
  have htext : generate (.text t) root =
      ((Json.read t).mapError SourceError.unreadable).map (describe root) := rfl
  rw [htext]
  cases Json.read t with
  | error e => simp [Except.mapError, Except.map]
  | ok document => simp [Except.mapError, Except.map]

/-- A text that cannot be read has no interfaces, for the same reason. -/
theorem generate_text_eq_error {t root : Text} {e : Json.ReadError} :
    generate (.text t) root = .error (.unreadable e) ↔ Json.read t = .error e := by
  rw [generate, Source.read]
  cases Json.read t <;> simp [Except.mapError, Except.map]

end JsonTypings
