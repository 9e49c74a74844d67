import JsonTypings.Proofs.Naming.Kebab
import JsonTypings.Proofs.Sample.Key

/-! Reading the keys of sample documents. The style of a key shows in its hyphens and underscores, and
then the words can be told apart; only the style of a single word cannot be told. -/
namespace JsonTypings.Sample

open Naming

/-- The style of a key. A single word counts as camel case. -/
def KeyStyle.ofKey (key : Text) : KeyStyle :=
  if CodePoint.ofChar '-' ∈ key then kebab
  else if CodePoint.ofChar '_' ∈ key then snake
  else camel

/-- The words of a key. -/
def wordsOf (key : Text) : List Text :=
  match KeyStyle.ofKey key with
  | .kebab => segments key
  | .snake => Text.splitOn '_' key
  | .camel => segments (hyphenate key)

theorem keyWords_plain : ∀ w ∈ keyWords, IsWord w ∧ CodePoint.ofChar '_' ∉ w ∧
    KeyStyle.capitalWord w = capitalize w := by decide +kernel

section Words

variable {words : List Text} (h : IsKeyWords words)

include h

theorem IsKeyWords.isWord : ∀ w ∈ words, IsWord w := fun w hw => (keyWords_plain w (h.subset hw)).1

theorem IsKeyWords.ne_nil : words ≠ [] := List.ne_nil_of_length_pos h.length_pos

theorem IsKeyWords.isKebab_join : IsKebab (KeyStyle.kebab.join words) := ⟨words, h.ne_nil, h.isWord, rfl⟩

theorem IsKeyWords.segments_join_kebab : segments (KeyStyle.kebab.join words) = words :=
  segments_intercalate h.ne_nil h.isWord

theorem IsKeyWords.splitOn_join_snake : Text.splitOn '_' (KeyStyle.snake.join words) = words := by
  rw [Text.splitOn_eq]
  exact List.splitOn_intercalate _ (fun w hw => (keyWords_plain w (h.subset hw)).2.1) h.ne_nil

/-- Camel case is what the names of fields make of kebab case. -/
theorem IsKeyWords.join_camel : KeyStyle.camel.join words = camel (KeyStyle.kebab.join words) := by
  rw [camel, h.segments_join_kebab]
  cases words with
  | nil => rfl
  | cons first rest =>
    have hrest : ∀ w ∈ rest, KeyStyle.capitalWord w = capitalize w := fun w hw =>
      (keyWords_plain w (h.subset (List.mem_cons_of_mem _ hw))).2.2
    exact congrArg (first ++ ·) (List.flatMap_congr hrest)

theorem IsKeyWords.segments_join_camel : segments (hyphenate (KeyStyle.camel.join words)) = words := by
  rw [h.join_camel, hyphenate_camel h.isKebab_join, h.segments_join_kebab]

theorem IsKeyWords.underscore_not_mem_kebab : CodePoint.ofChar '_' ∉ KeyStyle.kebab.join words := by
  intro hmem
  obtain hsep | ⟨w, hw, hc⟩ := Text.mem_of_mem_intercalate hmem
  · revert hsep
    decide
  · exact (keyWords_plain w (h.subset hw)).2.1 hc

theorem IsKeyWords.hyphen_not_mem_snake : CodePoint.ofChar '-' ∉ KeyStyle.snake.join words := by
  intro hmem
  obtain hsep | ⟨w, hw, hc⟩ := Text.mem_of_mem_intercalate hmem
  · revert hsep
    decide
  · exact (h.isWord w hw).hyphen_not_mem hc

/-- The style can be read back from more than one word. -/
theorem IsKeyWords.ofKey_join {style : KeyStyle} (hstyle : style = .camel ∨ 1 < words.length) :
    KeyStyle.ofKey (style.join words) = style := by
  have hparts (hmore : 1 < words.length) : ∃ a b rest, words = a :: b :: rest := by
    obtain ⟨a, more, rfl⟩ := List.exists_cons_of_ne_nil h.ne_nil
    cases more with
    | nil => cases hmore.ne rfl
    | cons b rest => exact ⟨a, b, rest, rfl⟩
  cases style with
  | kebab =>
    obtain ⟨a, b, rest, rfl⟩ := hparts (hstyle.resolve_left (by decide))
    have hhyphen : CodePoint.ofChar '-' ∈ KeyStyle.kebab.join (a :: b :: rest) := by
      rw [KeyStyle.join, List.intercalate_cons_cons]
      exact List.mem_append_left _ (List.mem_append_right _ (by decide))
    rw [KeyStyle.ofKey, if_pos hhyphen]
  | snake =>
    have hhyphen := h.hyphen_not_mem_snake
    obtain ⟨a, b, rest, rfl⟩ := hparts (hstyle.resolve_left (by decide))
    have hunderscore : CodePoint.ofChar '_' ∈ KeyStyle.snake.join (a :: b :: rest) := by
      rw [KeyStyle.join, List.intercalate_cons_cons]
      exact List.mem_append_left _ (List.mem_append_right _ (by decide))
    rw [KeyStyle.ofKey, if_neg hhyphen, if_pos hunderscore]
  | camel =>
    have hunderscore : CodePoint.ofChar '_' ∉ camel (KeyStyle.kebab.join words) := fun hmem =>
      h.underscore_not_mem_kebab (mem_of_mem_camel (by decide) hmem)
    rw [h.join_camel, KeyStyle.ofKey, if_neg (hyphen_not_mem_camel _), if_neg hunderscore]

/-- A single word is the same in all styles. -/
theorem IsKeyWords.exists_style (style : KeyStyle) : ∃ shown : KeyStyle,
    (shown = .camel ∨ 1 < words.length) ∧ style.join words = shown.join words := by
  by_cases hmore : 1 < words.length
  · exact ⟨style, .inr hmore, rfl⟩
  · have hlength := h.length_pos
    obtain ⟨w, rfl⟩ := List.length_eq_one_iff.mp (by omega : words.length = 1)
    refine ⟨.camel, .inl rfl, ?_⟩
    cases style <;> simp [KeyStyle.join]

/-- The words can always be read back. -/
theorem IsKeyWords.wordsOf_join (style : KeyStyle) : wordsOf (style.join words) = words := by
  obtain ⟨shown, hshown, hjoin⟩ := h.exists_style style
  rw [hjoin, wordsOf, h.ofKey_join hshown]
  cases shown with
  | kebab => exact h.segments_join_kebab
  | snake => exact h.splitOn_join_snake
  | camel => exact h.segments_join_camel

end Words

end JsonTypings.Sample
