import JsonTypings.Proofs.Random.Closed

/-! The number of attempts is only a bound. A random computation that ends gives the same, and leaves
the same state of the twister, however many more attempts its loops have. Of the state itself only the
words to come matter, and not the block that they stand in. -/
namespace JsonTypings.Draw

variable {α β : Type}

/-- More attempts do not change what is drawn. -/
def Steady (d : Draw α) : Prop :=
  ∀ attempts more t a t', attempts ≤ more → d attempts t = (.ok a, t') → d more t = (.ok a, t')

theorem steady_pure (a : α) : Steady (pure a : Draw α) := fun _ _ _ _ _ _ hd => hd

theorem steady_word : Steady word := fun _ _ _ _ _ _ hd => hd

theorem Steady.bind_of {P : α → Prop} {d : Draw α} {f : α → Draw β} (hd : Steady d) (hP : Always P d)
    (hf : ∀ a, P a → Steady (f a)) : Steady (d >>= f) := by
  intro attempts more t b t' hle hb
  rcases hrun : d attempts t with ⟨r, t₁⟩
  cases r with
  | ok a =>
    rw [bind_of_ok hrun] at hb
    rw [bind_of_ok (hd attempts more t a t₁ hle hrun)]
    exact hf a (hP attempts t a t₁ hrun) attempts more t₁ b t' hle hb
  | error e =>
    rw [bind_of_error hrun] at hb
    cases hb

/-- A loop that has found something does not come to its further attempts. -/
theorem steady_retry {d : Draw (Option α)} (hd : Steady d) : Steady (retry d) := by
  intro attempts more t a t' hle ha
  have hgo (left : ℕ) : ∀ left' t, left ≤ left' → retry.go d left attempts t = (.ok a, t') →
      retry.go d left' more t = (.ok a, t') := by
    induction left with
    | zero =>
      intro left' t _ h
      cases h
    | succ left ih =>
      intro left' t hleft h
      obtain ⟨rest, rfl⟩ : ∃ rest, left' = rest + 1 := ⟨left' - 1, by omega⟩
      rcases hrun : d attempts t with ⟨r, t₁⟩
      rw [retry.go, hrun] at h
      cases r with
      | error e => cases h
      | ok o =>
        rw [retry.go, hd attempts more t o t₁ hle hrun]
        cases o with
        | some b => exact h
        | none => exact ih rest t₁ (by omega) h
  exact hgo attempts more t hle ha

theorem closed_steady : Closed @Steady := ⟨steady_pure, steady_word, Steady.bind_of, steady_retry⟩

/-- A computation gives something from some state, with enough attempts. -/
def Gives (d : Draw α) (t : Twister) (a : α) : Prop := ∃ attempts, (d attempts t).1 = .ok a

theorem Always.of_gives {P : α → Prop} {d : Draw α} (h : Always P d) {t : Twister} {a : α}
    (ha : Gives d t a) : P a := by
  obtain ⟨attempts, ha⟩ := ha
  exact h.of_ok ha

theorem Steady.ok_of_le {d : Draw α} (hd : Steady d) {attempts more : ℕ} {t : Twister} {a : α}
    (hle : attempts ≤ more) (h : (d attempts t).1 = .ok a) : (d more t).1 = .ok a := by
  rw [hd attempts more t a _ hle (Prod.ext h rfl)]

/-- Nothing else is given from that state. -/
theorem Gives.unique {d : Draw α} (hd : Steady d) {t : Twister} {a b : α} (ha : Gives d t a)
    (hb : Gives d t b) : a = b := by
  obtain ⟨m, ha⟩ := ha
  obtain ⟨n, hb⟩ := hb
  have ha := hd.ok_of_le (Nat.le_max_left m n) ha
  have hb := hd.ok_of_le (Nat.le_max_right m n) hb
  exact Except.ok.inj (ha.symm.trans hb)

/-- From states with the same words to come the same is drawn, and the same words are left. -/
def Foreseen (d : Draw α) : Prop :=
  ∀ attempts t t', t.next = t'.next →
    (d attempts t).1 = (d attempts t').1 ∧ (d attempts t).2.next = (d attempts t').2.next

theorem foreseen_pure (a : α) : Foreseen (pure a : Draw α) := fun _ _ _ h => ⟨rfl, h⟩

theorem foreseen_word : Foreseen word := by
  intro attempts t t' h
  rw [word, h]
  exact ⟨rfl, rfl⟩

/-- Runs from such states end alike. -/
theorem Foreseen.run {d : Draw α} (hd : Foreseen d) {attempts : ℕ} {t t' t₁ : Twister} {r : Except DrawError α}
    (h : t.next = t'.next) (hrun : d attempts t = (r, t₁)) :
    ∃ t₁', d attempts t' = (r, t₁') ∧ t₁.next = t₁'.next := by
  have hboth := hd attempts t t' h
  rw [hrun] at hboth
  exact ⟨(d attempts t').2, Prod.ext hboth.1.symm rfl, hboth.2⟩

theorem Foreseen.bind_of {P : α → Prop} {d : Draw α} {f : α → Draw β} (hd : Foreseen d) (hP : Always P d)
    (hf : ∀ a, P a → Foreseen (f a)) : Foreseen (d >>= f) := by
  intro attempts t t' h
  rcases hrun : d attempts t with ⟨r, t₁⟩
  obtain ⟨t₁', hrun', hnext⟩ := hd.run h hrun
  cases r with
  | ok a =>
    rw [bind_of_ok hrun, bind_of_ok hrun']
    exact hf a (hP attempts t a t₁ hrun) attempts t₁ t₁' hnext
  | error e =>
    rw [bind_of_error hrun, bind_of_error hrun']
    exact ⟨rfl, hnext⟩

theorem foreseen_retry {d : Draw (Option α)} (hd : Foreseen d) : Foreseen (retry d) := by
  intro attempts t t' h
  have hgo (left : ℕ) : ∀ t t', t.next = t'.next →
      (retry.go d left attempts t).1 = (retry.go d left attempts t').1 ∧
        (retry.go d left attempts t).2.next = (retry.go d left attempts t').2.next := by
    induction left with
    | zero => exact fun t t' h => ⟨rfl, h⟩
    | succ left ih =>
      intro t t' h
      rcases hrun : d attempts t with ⟨r, t₁⟩
      obtain ⟨t₁', hrun', hnext⟩ := hd.run h hrun
      rw [retry.go, retry.go, hrun, hrun']
      cases r with
      | error e => exact ⟨rfl, hnext⟩
      | ok a =>
        cases a with
        | none => exact ih t₁ t₁' hnext
        | some a => exact ⟨rfl, hnext⟩
  exact hgo attempts t t' h

theorem closed_foreseen : Closed @Foreseen :=
  ⟨foreseen_pure, foreseen_word, Foreseen.bind_of, foreseen_retry⟩

end JsonTypings.Draw
