import JsonTypings.Proofs.Random.Always

/-! Properties of random computations that the ways to build them keep. Such a property of single words is
one of all that is drawn with them. -/
namespace JsonTypings.Draw

variable {α β : Type}

/-- A property that goes from the parts of a computation to the whole. What follows a draw need only have
it for what can be drawn. -/
structure Closed (R : ∀ {α : Type}, Draw α → Prop) : Prop where
  pure {α : Type} (a : α) : R (Pure.pure a : Draw α)
  word : R word
  bind_of {α β : Type} {P : α → Prop} {d : Draw α} {f : α → Draw β} (hd : R d) (hP : Always P d)
    (hf : ∀ a, P a → R (f a)) : R (d >>= f)
  retry {α : Type} {d : Draw (Option α)} (hd : R d) : R (retry d)

namespace Closed

variable {R : ∀ {α : Type}, Draw α → Prop} (h : Closed R)

include h

theorem bind {d : Draw α} {f : α → Draw β} (hd : R d) (hf : ∀ a, R (f a)) : R (d >>= f) :=
  h.bind_of hd (always_true d) fun a _ => hf a

theorem map {d : Draw α} (hd : R d) (f : α → β) : R (f <$> d) := h.bind hd fun a => h.pure (f a)

theorem times {d : Draw α} (hd : R d) (n : Nat) : R (times n d) := by
  have hgo (drawn : List α) : R (times.go d drawn n) := by
    induction n generalizing drawn with
    | zero => exact h.pure _
    | succ n ih => exact h.bind hd fun a => ih (a :: drawn)
  exact hgo []

theorem bits (k : Nat) : R (bits k) := by
  have hfrom (low full : Nat) : R (bitsFrom low full) := by
    induction full with
    | zero =>
      unfold bitsFrom
      split
      · exact h.pure _
      · exact h.bind h.word fun _ => h.pure _
    | succ full ih => exact h.bind h.word fun _ => h.bind ih fun _ => h.pure _
  exact hfrom _ _

theorem below (n : Nat) : R (below n) := h.retry (h.bind (h.bits _) fun _ => h.pure _)

theorem between {low high : Int} (hle : low ≤ high) : R (between low high) := by
  rw [Draw.between, if_neg (by omega)]
  exact h.bind (h.below _) fun _ => h.pure _

theorem choose (first : α) (rest : List α) : R (choose first rest) :=
  h.bind (h.below _) fun _ => h.pure _

theorem fraction : R fraction := h.bind h.word fun _ => h.bind h.word fun _ => h.pure _

theorem uniform (low width : Float) : R (uniform low width) := h.bind h.fraction fun _ => h.pure _

theorem chooseMany (first : α) (rest : List α) {k : Int} (hk : fitsWord k = true) :
    R (chooseMany first rest k) := by
  rw [Draw.chooseMany, if_pos hk]
  exact h.times (h.bind h.fraction fun _ => h.pure _) _

theorem chooseDistinct (pool : List α) (k : Nat) : R (chooseDistinct pool k) := by
  induction k generalizing pool with
  | zero => exact h.pure _
  | succ k ih =>
    refine h.bind (h.below _) fun j => ?_
    split
    · exact h.bind (ih _) fun _ => h.pure _
    · exact h.pure _

end Closed

end JsonTypings.Draw
