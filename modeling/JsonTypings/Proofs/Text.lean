import JsonTypings.CodePoint

/-! Splitting texts at a mark, and at blank lines. Each way of splitting undoes the joining that
belongs to it, as long as the parts do not hold the mark. -/
namespace JsonTypings.Text

theorem mem_of_mem_splitOn {mark c : CodePoint} {t part : Text} (hpart : part ∈ splitOn mark t)
    (hc : c ∈ part) : c ∈ t := by
  induction t generalizing part with
  | nil => simp_all [splitOn]
  | cons d rest ih =>
    unfold splitOn at hpart
    split at hpart
    · rcases List.mem_cons.mp hpart with rfl | hpart
      · cases hc
      · exact List.mem_cons_of_mem _ (ih hpart hc)
    · split at hpart
      · obtain rfl := List.mem_singleton.mp hpart
        exact List.mem_cons.mpr (.inl (List.mem_singleton.mp hc))
      · rename_i first more hrest
        rcases List.mem_cons.mp hpart with rfl | hpart
        · rcases List.mem_cons.mp hc with rfl | hc
          · exact List.mem_cons_self
          · exact List.mem_cons_of_mem _ (ih (hrest ▸ List.mem_cons_self) hc)
        · exact List.mem_cons_of_mem _ (ih (hrest ▸ List.mem_cons_of_mem _ hpart) hc)

/-- Joining adds nothing but what stands between the parts. -/
theorem mem_of_mem_intercalate {sep : Text} {parts : List Text} {c : CodePoint}
    (h : c ∈ List.intercalate sep parts) : c ∈ sep ∨ ∃ part ∈ parts, c ∈ part := by
  induction parts with
  | nil => cases h
  | cons part more ih =>
    cases more with
    | nil =>
      rw [List.intercalate_singleton] at h
      exact .inr ⟨part, List.mem_cons_self, h⟩
    | cons next more =>
      rw [List.intercalate_cons_cons, List.mem_append, List.mem_append] at h
      rcases h with (h | h) | h
      · exact .inr ⟨part, List.mem_cons_self, h⟩
      · exact .inl h
      · obtain hsep | ⟨other, hother, hc⟩ := ih h
        · exact .inl hsep
        · exact .inr ⟨other, List.mem_cons_of_mem _ hother, hc⟩

/-- Splitting is that of lists of any kind. -/
theorem splitOn_eq (mark : CodePoint) (t : Text) : splitOn mark t = List.splitOn mark t := by
  induction t with
  | nil => rfl
  | cons c rest ih =>
    rw [splitOn, List.splitOn_cons_eq_if_modifyHead, ← ih]
    by_cases hc : c = mark
    · simp [hc]
    · cases hrest : splitOn mark rest with
      | nil => exact absurd hrest (splitOn_ne_nil mark rest)
      | cons first more => simp [hc]

/-- No part holds the mark. -/
theorem not_mem_of_mem_splitOn {mark : CodePoint} {t part : Text} (hpart : part ∈ splitOn mark t) :
    mark ∉ part := by
  induction t generalizing part with
  | nil => simp_all [splitOn]
  | cons c rest ih =>
    unfold splitOn at hpart
    split at hpart
    · rcases List.mem_cons.mp hpart with rfl | hpart
      · exact List.not_mem_nil
      · exact ih hpart
    · rename_i hc
      split at hpart
      · obtain rfl := List.mem_singleton.mp hpart
        exact fun h => hc (List.mem_singleton.mp h).symm
      · rename_i first more hrest
        rcases List.mem_cons.mp hpart with rfl | hpart
        · have hfirst : mark ∉ first := ih (hrest ▸ List.mem_cons_self)
          exact fun h => (List.mem_cons.mp h).elim (fun heq => hc heq.symm) hfirst
        · exact ih (hrest ▸ List.mem_cons_of_mem _ hpart)

theorem splitOn_of_not_mem {mark : CodePoint} {t : Text} (h : mark ∉ t) : splitOn mark t = [t] := by
  induction t with
  | nil => rfl
  | cons c rest ih =>
    simp only [List.mem_cons, not_or] at h
    simp [splitOn, Ne.symm h.1, ih h.2]

/-- Parts that each end in a mark, and a last one that does not, are told apart again. -/
theorem splitOn_flatMap {mark : CodePoint} {parts : List Text} {last : Text}
    (hparts : ∀ part ∈ parts, mark ∉ part) (hlast : mark ∉ last) :
    splitOn mark ((parts.flatMap fun part => part ++ [mark]) ++ last) = parts ++ [last] := by
  induction parts with
  | nil => exact splitOn_of_not_mem hlast
  | cons part more ih =>
    have hpart := splitOn_of_not_mem (hparts part List.mem_cons_self)
    have hmore := ih fun p hp => hparts p (List.mem_cons_of_mem _ hp)
    simp only [List.flatMap_cons, List.append_assoc, List.cons_append, List.nil_append]
    rw [splitOn_append, hpart, hmore]
    rfl

/-- Puts a text in front of the first of several. -/
def attach (t : Text) : List Text → List Text
  | [] => [t]
  | first :: more => (t ++ first) :: more

theorem attach_append (s t : Text) {ts : List Text} (h : ts ≠ []) :
    attach (s ++ t) ts = attach s (attach t ts) := by
  cases ts with
  | nil => contradiction
  | cons first more => simp [attach]

/-- The stretches between blank lines, at least one. -/
def blocks : Text → List Text
  | [] => [[]]
  | [c] => [[c]]
  | c :: d :: rest =>
    if c = CodePoint.ofChar '\n' ∧ d = CodePoint.ofChar '\n' then [] :: blocks rest
    else attach [c] (blocks (d :: rest))

theorem blocks_ne_nil (t : Text) : blocks t ≠ [] := by
  fun_cases blocks t with
  | case1 => simp
  | case2 c => simp
  | case3 c d rest h => simp
  | case4 c d rest h => cases blocks (d :: rest) <;> simp [attach]

theorem blocks_cons {c : CodePoint} (t : Text) (hc : c ≠ CodePoint.ofChar '\n') :
    blocks (c :: t) = attach [c] (blocks t) := by
  cases t with
  | nil => simp [blocks, attach]
  | cons d rest => simp [blocks, hc]

/-- A line feed in front of something else ends no block. -/
theorem blocks_lineFeed {c : CodePoint} (t : Text) (hc : c ≠ CodePoint.ofChar '\n') :
    blocks (CodePoint.ofChar '\n' :: c :: t) = attach [CodePoint.ofChar '\n'] (blocks (c :: t)) := by
  simp [blocks, hc]

theorem blocks_blankLine (t : Text) :
    blocks (CodePoint.ofChar '\n' :: CodePoint.ofChar '\n' :: t) = [] :: blocks t := by
  simp [blocks]

/-- A text that no blank line cuts, whatever comes after it. -/
def Unbroken (t : Text) : Prop := ∀ u, blocks (t ++ u) = attach t (blocks u)

theorem Unbroken.append {s t : Text} (hs : Unbroken s) (ht : Unbroken t) : Unbroken (s ++ t) := by
  intro u
  rw [List.append_assoc, hs, ht, attach_append s t (blocks_ne_nil u)]

theorem unbroken_of_not_mem {line : Text} (h : CodePoint.ofChar '\n' ∉ line) : Unbroken line := by
  intro u
  induction line with
  | nil =>
    obtain ⟨first, more, hu⟩ := List.exists_cons_of_ne_nil (blocks_ne_nil u)
    simp [hu, attach]
  | cons c rest ih =>
    simp only [List.mem_cons, not_or] at h
    rw [List.cons_append, blocks_cons _ (Ne.symm h.1), ih h.2]
    exact (attach_append [c] rest (blocks_ne_nil u)).symm

/-- A line feed is part of a block when a line that is not empty follows. -/
theorem Unbroken.lineFeed {c : CodePoint} {t : Text} (hc : c ≠ CodePoint.ofChar '\n')
    (ht : Unbroken (c :: t)) : Unbroken (CodePoint.ofChar '\n' :: c :: t) := by
  intro u
  have hu := ht u
  rw [List.cons_append] at hu
  rw [List.cons_append, List.cons_append, blocks_lineFeed _ hc, hu]
  exact (attach_append [CodePoint.ofChar '\n'] (c :: t) (blocks_ne_nil u)).symm

/-- Lines that are not empty make one block. -/
theorem unbroken_lines {lines : List Text} {last : Text}
    (hlines : ∀ line ∈ lines, line ≠ [] ∧ CodePoint.ofChar '\n' ∉ line)
    (hlast : last ≠ [] ∧ CodePoint.ofChar '\n' ∉ last) :
    Unbroken ((lines.flatMap fun line => line ++ [CodePoint.ofChar '\n']) ++ last) := by
  induction lines with
  | nil => exact unbroken_of_not_mem hlast.2
  | cons line more ih =>
    have hmore := ih fun l hl => hlines l (List.mem_cons_of_mem _ hl)
    have hstart : ∃ c t, (more.flatMap fun line => line ++ [CodePoint.ofChar '\n']) ++ last = c :: t ∧
        c ≠ CodePoint.ofChar '\n' := by
      cases more with
      | nil =>
        obtain ⟨c, t, rfl⟩ := List.exists_cons_of_ne_nil hlast.1
        exact ⟨c, t, rfl, fun h => hlast.2 (h ▸ List.mem_cons_self)⟩
      | cons next more =>
        obtain ⟨hne, hnext⟩ := hlines next (by simp)
        obtain ⟨c, t, rfl⟩ := List.exists_cons_of_ne_nil hne
        exact ⟨c, _, rfl, fun h => hnext (h ▸ List.mem_cons_self)⟩
    obtain ⟨c, t, heq, hc⟩ := hstart
    rw [heq] at hmore
    rw [List.flatMap_cons, List.append_assoc, heq, List.append_assoc]
    exact (unbroken_of_not_mem (hlines line List.mem_cons_self).2).append (hmore.lineFeed hc)

/-- Blocks with a blank line between them are told apart again. -/
theorem blocks_intercalate {ts : List Text} (hne : ts ≠ []) (h : ∀ t ∈ ts, Unbroken t) :
    blocks (List.intercalate [CodePoint.ofChar '\n', CodePoint.ofChar '\n'] ts) = ts := by
  induction ts with
  | nil => contradiction
  | cons t more ih =>
    have ht := h t List.mem_cons_self
    cases more with
    | nil =>
      have hlast := ht []
      simpa [blocks, attach, List.intercalate] using hlast
    | cons next more =>
      have hmore := ih (by simp) fun b hb => h b (List.mem_cons_of_mem _ hb)
      simp only [List.intercalate_cons_cons, List.append_assoc, List.cons_append, List.nil_append]
      rw [ht, blocks_blankLine, hmore]
      simp [attach]

end JsonTypings.Text
