import JsonTypings.Proofs.Random.Closed
import JsonTypings.Proofs.Sample.StringLength
import JsonTypings.Sample.Document

/-! Sample documents have the properties that all ways to build random computations keep. They are drawn
with no errors of their own: all their ranges hold something, and the numbers of draws are small. -/
namespace JsonTypings.Sample

open Draw (Closed fitsWord always_between always_choose)

theorem fitsWord_of_small {k : Int} (hlow : 0 ≤ k) (hhigh : k ≤ 15) : fitsWord k = true := by
  have hword : ((Nat.pow 2 63 : ℕ) : Int) = 9223372036854775808 := rfl
  rw [fitsWord, Bool.and_eq_true, decide_eq_true_eq, decide_eq_true_eq]
  omega

section Closed

variable {R : ∀ {α : Type}, Draw α → Prop} (h : Closed R)

include h

theorem closed_filler {length : Int} (hlength : 0 ≤ length) : R (filler length) := by
  have hcount : 0 ≤ fillerCount length ∧ fillerCount length ≤ 15 := by
    rw [fillerCount_eq]
    omega
  exact h.bind (h.chooseMany _ _ (fitsWord_of_small hcount.1 hcount.2)) fun _ => h.pure _

/-- The bounds of the strings in documents are far from those of a machine word. -/
theorem closed_string {low high : Int} (hlow : 0 ≤ low) (hle : low ≤ high) (hhigh : high ≤ 15) :
    R (string low high) := by
  refine h.bind_of (h.between hle) (always_between low high) fun length hlength => ?_
  have hfits : fitsWord length = true := fitsWord_of_small (by omega) (by omega)
  refine h.bind h.fraction fun m => ?_
  split
  · exact closed_filler h (by omega)
  · split
    · exact h.chooseMany _ _ hfits
    · exact h.chooseMany _ _ hfits

theorem closed_boolean : R boolean := h.choose _ _

theorem closed_datetime : R datetime :=
  h.bind (h.between (by decide)) fun _ => h.bind (h.between (by decide)) fun _ => h.pure _

theorem closed_email : R email :=
  h.bind (h.choose _ _) fun _ => h.bind (h.between (by decide)) fun _ => h.bind (h.choose _ _) fun _ =>
    h.pure _

theorem closed_primitive : R primitive := by
  refine h.bind (h.below 7) fun kind => ?_
  split
  · exact h.bind (h.between (by decide)) fun _ => h.pure _
  · exact h.bind (h.uniform _ _) fun _ => h.pure _
  · exact h.bind (closed_string h (by decide) (by decide) (by decide)) fun _ => h.pure _
  · exact h.bind (closed_boolean h) fun _ => h.pure _
  · exact h.bind (closed_datetime h) fun _ => h.pure _
  · exact h.bind (closed_email h) fun _ => h.pure _
  · exact h.bind (h.map (h.bits 128) _) fun _ => h.pure _

/-- The kind of the items is drawn first, as a computation that has the property itself. -/
theorem closed_primitives : R primitives := by
  refine h.bind_of (h.choose _ _) (always_choose (P := fun element => R element) ?_) fun element helement => ?_
  · simp only [List.forall_mem_cons, List.not_mem_nil, false_implies, implies_true, and_true]
    exact ⟨h.map (h.between (by decide)) _, h.map (closed_string h (by decide) (by decide) (by decide)) _,
      h.map (closed_boolean h) _⟩
  · exact h.bind (h.between (by decide)) fun count => h.times helement _

theorem closed_newKey (taken : List Text) : R (newKey taken) := by
  have hkey : R key :=
    h.bind (h.between (by decide)) fun _ => h.bind (h.chooseDistinct _ _) fun _ =>
      h.bind h.fraction fun _ => h.pure _
  exact h.retry (h.bind hkey fun _ => h.pure _)

theorem closed_fields {value : Draw Value} (hvalue : R value) (members : Members) (n : ℕ) :
    R (fields value members n) := by
  induction n generalizing members with
  | zero => exact h.pure _
  | succ n ih => exact h.bind (closed_newKey h _) fun key => h.bind hvalue fun v => ih _

theorem closed_primitiveFields (members : Members) (n : ℕ) : R (primitiveFields members n) := by
  induction n generalizing members with
  | zero => exact h.pure _
  | succ n ih => exact h.bind (closed_primitive h) fun v => h.bind (closed_newKey h _) fun key => ih _

theorem closed_flatValue (kind : ℕ) : R (flatValue kind) := by
  unfold flatValue
  split
  · exact closed_primitive h
  · exact closed_primitive h
  · exact h.pure _
  · exact h.bind (closed_primitives h) fun _ => h.pure _
  · exact h.pure _

theorem closed_fieldValue (depth : ℕ) (width : Int) : R (fieldValue depth width) := by
  induction depth generalizing width with
  | zero => exact h.bind (h.below 5) fun kind => closed_flatValue h kind
  | succ depth ih =>
    have hobject := h.map (closed_fields h (ih (childWidth width)) [] (childWidth width)) Value.object
    refine h.bind (h.below 7) fun kind => ?_
    split
    · exact hobject
    · exact h.bind (h.between (by decide)) fun count => h.map (h.times hobject _) _
    · exact closed_flatValue h _

theorem closed_document (depth width : Int) : R (document depth width) :=
  closed_fields h (closed_fieldValue h _ _) _ _

theorem closed_primitiveDocument (width : Int) : R (primitiveDocument width) :=
  closed_primitiveFields h _ _

end Closed

end JsonTypings.Sample
