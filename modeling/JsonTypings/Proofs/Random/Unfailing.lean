import JsonTypings.Proofs.Random.Steady

/-! Computations that nothing stops but a loop that has used up its attempts. Where such a computation
gives nothing, however many attempts there are, it never ends. -/
namespace JsonTypings.Draw

variable {α β : Type}

/-- No error but that of a loop without attempts left. -/
def Unfailing (d : Draw α) : Prop := ∀ attempts t e t', d attempts t = (.error e, t') → e = .unfinished

theorem unfailing_pure (a : α) : Unfailing (pure a : Draw α) := by
  intro attempts t e t' hd
  cases hd

theorem unfailing_word : Unfailing word := by
  intro attempts t e t' hd
  cases hd

theorem Unfailing.bind_of {P : α → Prop} {d : Draw α} {f : α → Draw β} (hd : Unfailing d) (hP : Always P d)
    (hf : ∀ a, P a → Unfailing (f a)) : Unfailing (d >>= f) := by
  intro attempts t e t' he
  rcases hrun : d attempts t with ⟨r, t₁⟩
  cases r with
  | ok a =>
    rw [bind_of_ok hrun] at he
    exact hf a (hP attempts t a t₁ hrun) attempts t₁ e t' he
  | error e₁ =>
    rw [bind_of_error hrun] at he
    cases he
    exact hd attempts t e t' hrun

theorem unfailing_retry {d : Draw (Option α)} (hd : Unfailing d) : Unfailing (retry d) := by
  intro attempts t e t' he
  have hgo (left : ℕ) (t : Twister) (h : retry.go d left attempts t = (.error e, t')) : e = .unfinished := by
    induction left generalizing t with
    | zero =>
      cases h
      rfl
    | succ left ih =>
      rcases hrun : d attempts t with ⟨r, t₁⟩
      rw [retry.go, hrun] at h
      cases r with
      | error e₁ =>
        cases h
        exact hd attempts t e t' hrun
      | ok o =>
        cases o with
        | some a => cases h
        | none => exact ih t₁ h
  exact hgo attempts t he

theorem closed_unfailing : Closed @Unfailing :=
  ⟨unfailing_pure, unfailing_word, Unfailing.bind_of, unfailing_retry⟩

/-- However many attempts there are, they are used up. -/
def Endless (d : Draw α) (t : Twister) : Prop := ∀ attempts, (d attempts t).1 = .error .unfinished

theorem Unfailing.endless {d : Draw α} (hd : Unfailing d) {t : Twister} (h : ∀ a, ¬ Gives d t a) :
    Endless d t := by
  intro attempts
  rcases hrun : d attempts t with ⟨r, t₁⟩
  cases r with
  | ok a =>
    have hgives : Gives d t a := ⟨attempts, by rw [hrun]⟩
    exact absurd hgives (h a)
  | error e => rw [hd attempts t e t₁ hrun]

end JsonTypings.Draw
