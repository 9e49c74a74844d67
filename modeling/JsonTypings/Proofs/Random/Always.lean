import JsonTypings.Random.Draw
import Mathlib.Data.List.Perm.Subperm

/-! What holds of everything that a random computation can draw, whatever the state of the twister
and however many attempts there are. -/
namespace JsonTypings.Draw

variable {α β : Type} {P : α → Prop} {Q : β → Prop}

/-- All that is drawn has a property. -/
def Always (P : α → Prop) (d : Draw α) : Prop := ∀ attempts t a t', d attempts t = (.ok a, t') → P a

theorem Always.mono {P' : α → Prop} {d : Draw α} (h : Always P d) (hP : ∀ a, P a → P' a) :
    Always P' d :=
  fun attempts t a t' hd => hP a (h attempts t a t' hd)

theorem Always.and {P' : α → Prop} {d : Draw α} (h : Always P d) (h' : Always P' d) :
    Always (fun a => P a ∧ P' a) d :=
  fun attempts t a t' hd => ⟨h attempts t a t' hd, h' attempts t a t' hd⟩

theorem Always.of_ok {d : Draw α} (h : Always P d) {attempts : Nat} {t : Twister} {a : α}
    (hd : (d attempts t).1 = .ok a) : P a :=
  h attempts t a _ (Prod.ext hd rfl)

theorem always_true (d : Draw α) : Always (fun _ => True) d := fun _ _ _ _ _ => trivial

theorem always_pure {a : α} (h : P a) : Always P (pure a : Draw α) := by
  intro attempts t b t' hd
  cases hd
  exact h

theorem always_fail (e : DrawError) : Always P (fail e : Draw α) := by
  intro attempts t a t' hd
  cases hd

theorem bind_of_ok {d : Draw α} {attempts : Nat} {t t₁ : Twister} {a : α}
    (hd : d attempts t = (.ok a, t₁))
    (f : α → Draw β) : (d >>= f) attempts t = f a attempts t₁ := by
  simp only [bind, hd]

theorem bind_of_fst {d : Draw α} {attempts : Nat} {t : Twister} {a : α} (hd : (d attempts t).1 = .ok a)
    (f : α → Draw β) : (d >>= f) attempts t = f a attempts (d attempts t).2 :=
  bind_of_ok (Prod.ext hd rfl) f

theorem bind_of_error {d : Draw α} {attempts : Nat} {t t₁ : Twister} {e : DrawError}
    (hd : d attempts t = (.error e, t₁))
    (f : α → Draw β) : (d >>= f) attempts t = (.error e, t₁) := by
  simp only [bind, hd]

theorem Always.bind {d : Draw α} {f : α → Draw β} (hd : Always P d)
    (hf : ∀ a, P a → Always Q (f a)) :
    Always Q (d >>= f) := by
  intro attempts t b t' hb
  rcases hrun : d attempts t with ⟨r, t₁⟩
  cases r with
  | ok a =>
    rw [bind_of_ok hrun] at hb
    exact hf a (hd attempts t a t₁ hrun) attempts t₁ b t' hb
  | error e =>
    rw [bind_of_error hrun] at hb
    cases hb

theorem Always.map {d : Draw α} {f : α → β} (hd : Always P d) (hf : ∀ a, P a → Q (f a)) :
    Always Q (f <$> d) :=
  hd.bind fun a ha => always_pure (hf a ha)

theorem always_retry {d : Draw (Option α)} (h : Always (fun o => ∀ a ∈ o, P a) d) :
    Always P (retry d) := by
  intro attempts t a t' ha
  have hgo (left : Nat) (t : Twister) (hgo : retry.go d left attempts t = (.ok a, t')) : P a := by
    induction left generalizing t with
    | zero => cases hgo
    | succ left ih =>
      rw [retry.go] at hgo
      split at hgo
      · rename_i b t₁ hd
        cases hgo
        exact h attempts t (some a) t' hd a rfl
      · rename_i t₁ hd
        exact ih t₁ hgo
      · cases hgo
  exact hgo attempts t ha

theorem always_times {d : Draw α} (h : Always P d) (n : Nat) :
    Always (fun l => ∀ a ∈ l, P a) (times n d) := by
  have hgo (drawn : List α) (hdrawn : ∀ a ∈ drawn, P a) :
      Always (fun l => ∀ a ∈ l, P a) (times.go d drawn n) := by
    induction n generalizing drawn with
    | zero => exact always_pure fun a ha => hdrawn a (List.mem_reverse.mp ha)
    | succ n ih => exact h.bind fun a ha => ih (a :: drawn) (List.forall_mem_cons.mpr ⟨ha, hdrawn⟩)
  exact hgo [] (by simp)

theorem always_times_length (d : Draw α) (n : Nat) : Always (fun l => l.length = n) (times n d) := by
  have hgo (drawn : List α) : Always (fun l => l.length = drawn.length + n) (times.go d drawn n) := by
    induction n generalizing drawn with
    | zero => exact always_pure (by simp)
    | succ n ih =>
      refine (always_true d).bind fun a _ => (ih (a :: drawn)).mono fun l hl => ?_
      rw [hl, List.length_cons]
      omega
  exact (hgo []).mono fun l hl => hl.trans (Nat.zero_add n)

theorem always_below (n : Nat) : Always (· < n) (below n) := by
  refine always_retry ((always_true _).bind fun r _ => always_pure fun a ha => ?_)
  split at ha
  · rename_i hr
    cases ha
    exact hr
  · cases ha

/-- An integer is drawn from within the bounds. -/
theorem always_between (low high : Int) :
    Always (fun i => low ≤ i ∧ i ≤ high) (between low high) := by
  unfold between
  split
  · exact always_fail _
  · refine (always_below _).bind fun n hn => always_pure ?_
    omega

theorem getD_mem (first : α) (rest : List α) (i : Nat) :
    (first :: rest).getD i first ∈ first :: rest := by
  rw [List.getD_eq_getElem?_getD]
  cases hget : (first :: rest)[i]? with
  | none => exact List.mem_cons_self
  | some a => exact List.mem_of_getElem? hget

theorem always_choose {first : α} {rest : List α} (h : ∀ a ∈ first :: rest, P a) :
    Always P (choose first rest) :=
  (always_true _).bind fun i _ => always_pure (h _ (getD_mem first rest i))

theorem always_chooseMany (first : α) (rest : List α) (k : Int) :
    Always (fun l => ∀ a ∈ l, a ∈ first :: rest) (chooseMany first rest k) := by
  unfold chooseMany
  split
  · exact always_times ((always_true _).bind fun m _ => always_pure (getD_mem first rest _)) _
  · exact always_fail _

theorem always_chooseMany_length (first : α) (rest : List α) (k : Int) :
    Always (fun l => l.length = k.toNat) (chooseMany first rest k) := by
  unfold chooseMany
  split
  · exact always_times_length _ _
  · exact always_fail _

/-- Filling the place of an element with the last one removes the element from the pool. -/
theorem perm_cons_dropLast_set {pool : List α} {j : Nat} {a last : α} (ha : pool[j]? = some a)
    (hlast : pool.getLast? = some last) : (a :: (pool.set j last).dropLast).Perm pool := by
  obtain ⟨hj, rfl⟩ := List.getElem?_eq_some_iff.mp ha
  obtain ⟨init, hinit⟩ := List.getLast?_eq_some_iff.mp hlast
  have hset : pool.set j last = (pool.set j last).dropLast ++ [last] := by
    subst hinit
    rw [List.length_append, List.length_singleton] at hj
    by_cases hend : j < init.length
    · rw [List.set_append_left _ _ hend, List.dropLast_concat]
    · obtain rfl : j = init.length := by omega
      simp
  have hperm : (last :: (pool.set j last).dropLast).Perm (last :: pool.eraseIdx j) := by
    refine (List.perm_append_singleton _ _).symm.trans ?_
    rw [← hset]
    exact List.set_perm_cons_eraseIdx hj last
  exact (hperm.cons_inv.cons _).trans (List.getElem_cons_eraseIdx_perm hj)

/-- Without repetition, as many elements are drawn as are asked for, and none more often than it is in
the pool. -/
theorem always_chooseDistinct (pool : List α) (k : Nat) :
    Always (fun l => l.Subperm pool ∧ l.length = k) (chooseDistinct pool k) := by
  induction k generalizing pool with
  | zero => exact always_pure ⟨List.nil_subperm, rfl⟩
  | succ k ih =>
    refine (always_below _).bind fun j hj => ?_
    have hne : pool ≠ [] := List.ne_nil_of_length_pos (Nat.zero_lt_of_lt hj)
    have hlast : pool.getLast? = some (pool.getLast hne) := List.getLast?_eq_some_getLast hne
    have ha : pool[j]? = some pool[j] := List.getElem?_eq_getElem hj
    simp only [ha, hlast]
    refine (ih _).bind fun rest hrest => always_pure ⟨?_, ?_⟩
    · exact ((List.subperm_cons _).mpr hrest.1).trans (perm_cons_dropLast_set ha hlast).subperm
    · rw [List.length_cons, hrest.2]

end JsonTypings.Draw
