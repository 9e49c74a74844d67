import JsonTypings.CommandLine.Session

/-! A notice in bold type is shown whatever it says, as long as no tag can begin in it. -/
namespace JsonTypings.Markup

open CommandLine (bold)

/-- The colours of notices. -/
def IsNoticeColour (colour : String) : Prop := colour = "green" ∨ colour = "red"

/-- The style of a notice. -/
def noticeStyle (colour : String) : Text := Text.ofString "bold " ++ Text.ofString colour

/-- The tag that opens a notice. -/
def noticeTag (colour : String) : Tag := ⟨noticeStyle colour, none⟩

theorem pieces_opening {colour : String} (h : IsNoticeColour colour) (rest : Text) :
    ∃ position, Piece.ofMessage
        (Text.ofString "[bold " ++ Text.ofString colour ++ Text.ofString "]" ++ rest) =
      .plain [] :: .plain [] :: .tag (noticeTag colour) 0 :: pieces position 0 0 [] rest := by
  rcases h with rfl | rfl
  · exact ⟨12, rfl⟩
  · exact ⟨10, rfl⟩

/-- Text in which no bracket opens goes on as text. -/
theorem exists_pieces_append {t : Text} (h : CodePoint.ofChar '[' ∉ t) (position pending : Nat)
    (plain rest : Text) :
    ∃ position' pending' plain',
      pieces position pending 0 plain (t ++ rest) = pieces position' pending' 0 plain' rest := by
  induction t generalizing position pending plain with
  | nil => exact ⟨position, pending, plain, rfl⟩
  | cons c t ih =>
    rw [List.mem_cons, not_or] at h
    by_cases hbackslash : c = CodePoint.ofChar '\\'
    · rw [List.cons_append, pieces, if_pos hbackslash]
      exact ih h.2 _ _ _
    · rw [List.cons_append, pieces, if_neg hbackslash, if_pos (Ne.symm h.1)]
      exact ih h.2 _ _ _

/-- The tag that closes a notice. -/
def closingTag (colour : String) : Tag := ⟨CodePoint.ofChar '/' :: noticeStyle colour, none⟩

/-- Backslashes in front of the closing tag may make it text. -/
theorem pieces_closing {colour : String} (h : IsNoticeColour colour) (position pending : Nat)
    (plain : Text) :
    ∃ t u p, pieces position pending 0 plain
        (Text.ofString "[/bold " ++ Text.ofString colour ++ Text.ofString "]") =
      [.plain t, .plain u, p, .plain []] ∧
        ((∃ v, p = .plain v) ∨ p = .tag (closingTag colour) position) := by
  refine ⟨plain.reverse, backslashes (pending / 2),
    if pending % 2 = 0 then .tag (closingTag colour) position
    else .plain (Text.ofString "[/bold " ++ Text.ofString colour ++ Text.ofString "]"), ?_, ?_⟩
  · rcases h with rfl | rfl <;> rfl
  · split
    · exact .inr rfl
    · exact .inl ⟨_, rfl⟩

/-- The colour of a notice is one, or at least no bad share of red, green and blue. -/
theorem ofWord_noticeColour {colour : String} (h : IsNoticeColour colour) :
    Colour.ofWord (Text.ofString colour) = .ok (Text.ofString colour) ∨
      Colour.ofWord (Text.ofString colour) = .error .unknown := by
  have hlower : Text.lower (Text.ofString colour) = Text.ofString colour := by
    rcases h with rfl | rfl <;> decide +kernel
  have hrgb : Colour.argument? "rgb(" (Text.ofString colour) = none := by
    rcases h with rfl | rfl <;> decide +kernel
  simp only [Colour.ofWord, hlower, hrgb]
  split
  · exact .inl rfl
  · exact .inr rfl

/-- A word that is none of the three that others follow is an attribute or a colour. -/
theorem addWords_cons {word : Text} (hlower : word.lower = word)
    (hother : word ∉ [Text.ofString "on", Text.ofString "not", Text.ofString "link"])
    (s : Style) (rest : List Text) :
    s.addWords (word :: rest) =
      match Attribute.ofName? word with
      | some a => (s.set a true).addWords rest
      | none =>
        match Colour.ofWord word with
        | .error e => .error e
        | .ok colour => Style.addWords { s with colour := some colour } rest := by
  simp only [List.mem_cons, List.not_mem_nil, or_false, not_or] at hother
  have hstep := Style.addWords.eq_def s (word :: rest)
  simp only [hlower, if_neg hother.1, if_neg hother.2.1, if_neg hother.2.2] at hstep
  exact hstep

theorem read_noticeStyle {colour : String} (h : IsNoticeColour colour) :
    Style.read (noticeStyle colour) = .ok ⟨[(.bold, true)], some (Text.ofString colour), none, none⟩ ∨
      Style.read (noticeStyle colour) = .error .unknown := by
  have hplain : Text.trim (noticeStyle colour) ≠ Style.plainWord := by
    rcases h with rfl | rfl <;> decide +kernel
  have hwords : Text.words (noticeStyle colour) = [Text.ofString "bold", Text.ofString colour] := by
    rcases h with rfl | rfl <;> decide +kernel
  have hbold : Attribute.ofName? (Text.ofString "bold") = some .bold := by decide +kernel
  have hname : Attribute.ofName? (Text.ofString colour) = none := by
    rcases h with rfl | rfl <;> decide +kernel
  have hlower : Text.lower (Text.ofString colour) = Text.ofString colour := by
    rcases h with rfl | rfl <;> decide +kernel
  have hother : Text.ofString colour ∉ [Text.ofString "on", Text.ofString "not", Text.ofString "link"] := by
    rcases h with rfl | rfl <;> decide
  rw [Style.read, if_neg hplain, hwords, addWords_cons (by decide +kernel) (by decide), hbold]
  simp only [addWords_cons hlower hother, hname]
  rcases ofWord_noticeColour h with h | h <;> rw [h]
  · exact .inl rfl
  · exact .inr rfl

/-- The name of the style is in its normal form. -/
theorem nameOf_noticeStyle {colour : String} (h : IsNoticeColour colour) :
    Assembly.nameOf (noticeStyle colour) = .ok (noticeStyle colour) := by
  have hwords : List.intercalate (Text.ofString " ")
      (Style.toWords ⟨[(.bold, true)], some (Text.ofString colour), none, none⟩) = noticeStyle colour := by
    rcases h with rfl | rfl <;> decide +kernel
  have hlower : (noticeStyle colour).trim.lower = noticeStyle colour := by
    rcases h with rfl | rfl <;> decide +kernel
  rcases read_noticeStyle h with hread | hread
  · rw [Assembly.nameOf, Style.normalize, hread]
    exact congrArg Except.ok hwords
  · rw [Assembly.nameOf, Style.normalize, hread]
    exact congrArg Except.ok hlower

/-- A message in which nothing but the tag of a notice was opened, and nothing styled otherwise. -/
structure IsNotice (colour : String) (a : Assembly) : Prop where
  opened : ∀ o ∈ a.opened, o.2 = noticeTag colour
  spans : ∀ s ∈ a.spans, s.style = noticeStyle colour

namespace IsNotice

variable {colour : String} {a : Assembly}

theorem addPlain (h : IsNotice colour a) (t : Text) : IsNotice colour (a.addPlain t) :=
  ⟨h.opened, h.spans⟩

theorem style_noticeTag (colour : String) : (noticeTag colour).style = noticeStyle colour := by
  simp [noticeTag, Tag.style]

theorem addSpan (h : IsNotice colour a) (start : Nat) :
    IsNotice colour (a.addSpan start (noticeTag colour).style) := by
  refine ⟨h.opened, ?_⟩
  simp only [Assembly.addSpan, List.forall_mem_cons]
  exact ⟨style_noticeTag colour, h.spans⟩

/-- What is left open is closed in the style of the notice, too. -/
theorem closeAll (h : IsNotice colour a) :
    ∀ s ∈ a.closeAll.spans, s.style = noticeStyle colour := by
  have hfold (opened : List (Nat × Tag)) (hopened : ∀ o ∈ opened, o.2 = noticeTag colour) (b : Assembly)
      (hb : ∀ s ∈ b.spans, s.style = noticeStyle colour) :
      ∀ s ∈ (opened.foldl (fun a o => a.addSpan o.1 o.2.style) b).spans, s.style = noticeStyle colour := by
    induction opened generalizing b with
    | nil => exact hb
    | cons o opened ih =>
      obtain ⟨ho, hrest⟩ := List.forall_mem_cons.mp hopened
      refine ih hrest _ ?_
      simp only [Assembly.addSpan, List.forall_mem_cons]
      exact ⟨by rw [ho, style_noticeTag], hb⟩
  exact hfold a.opened h.opened a h.spans

end IsNotice

/-- The opening tag is taken up. -/
theorem add_noticeTag {colour : String} (hcolour : IsNoticeColour colour) (a : Assembly)
    (position : Nat) :
    a.add (.tag (noticeTag colour) position) =
      .ok { a with opened := (a.text.length, noticeTag colour) :: a.opened } := by
  have hopens : (noticeTag colour).name.head? ≠ some (CodePoint.ofChar '/') := by
    rcases hcolour with rfl | rfl <;> decide
  rw [Assembly.add, if_neg hopens, Assembly.opening]
  simp [noticeTag, nameOf_noticeStyle hcolour, Except.map]

/-- The closing tag closes it. -/
theorem add_closingTag {colour : String} (hcolour : IsNoticeColour colour) {a : Assembly}
    {start : Nat} {rest : List (Nat × Tag)} (hopened : a.opened = (start, noticeTag colour) :: rest)
    (position : Nat) :
    a.add (.tag (closingTag colour) position) =
      .ok (Assembly.addSpan { a with opened := rest } start (noticeTag colour).style) := by
  have hwanted : Text.trim ((closingTag colour).name.drop 1) = noticeStyle colour := by
    rcases hcolour with rfl | rfl <;> decide +kernel
  have hne : noticeStyle colour ≠ [] := by
    rcases hcolour with rfl | rfl <;> decide
  have hdata : Assembly.isDataTag (noticeTag colour) = false := by
    rcases hcolour with rfl | rfl <;> decide
  have htake : Assembly.take? (noticeStyle colour) a.opened = some ((start, noticeTag colour), rest) := by
    rw [hopened, Assembly.take?]
    exact if_pos rfl
  rw [Assembly.add, if_pos (by rfl), Assembly.closing]
  simp only [hwanted, if_neg hne, nameOf_noticeStyle hcolour, Except.bind, htake, Assembly.finish,
    hdata]
  rfl

theorem checkSpans_eq_ok {colour : String} (hcolour : IsNoticeColour colour) {spans : List Span}
    (h : ∀ s ∈ spans, s.style = noticeStyle colour) : checkSpans spans = .ok () := by
  induction spans with
  | nil => rfl
  | cons s spans ih =>
    obtain ⟨hstyle, hrest⟩ := List.forall_mem_cons.mp h
    rw [checkSpans, hstyle]
    rcases read_noticeStyle hcolour with hread | hread <;> rw [hread] <;> exact ih hrest

theorem foldlM_cons_ok {a b : Assembly} {p : Piece} (h : a.add p = .ok b) (rest : List Piece) :
    (p :: rest).foldlM Assembly.add a = rest.foldlM Assembly.add b := by
  rw [List.foldlM_cons, h]
  rfl

/-- The pieces of a notice are put together, whether the closing tag is one or was made text. -/
theorem exists_assembly {colour : String} (hcolour : IsNoticeColour colour) {u w : Text} {p : Piece}
    {position : Nat} (hp : (∃ v, p = .plain v) ∨ p = .tag (closingTag colour) position) :
    ∃ a, [.plain [], .plain [], .tag (noticeTag colour) 0, .plain u, .plain w, p, .plain []].foldlM
      Assembly.add ⟨[], [], []⟩ = .ok a ∧ IsNotice colour a := by
  let begun := ((Assembly.mk [] [] []).addPlain []).addPlain []
  let opened : Assembly := { begun with opened := [(begun.text.length, noticeTag colour)] }
  have hopened : IsNotice colour opened :=
    ⟨by simp [opened], by simp [opened, begun, Assembly.addPlain]⟩
  let told := (opened.addPlain u).addPlain w
  have htold : IsNotice colour told := (hopened.addPlain u).addPlain w
  have hclosed : ∃ b, told.add p = .ok b ∧ IsNotice colour b := by
    rcases hp with ⟨v, rfl⟩ | rfl
    · exact ⟨_, rfl, htold.addPlain v⟩
    · have hnone : IsNotice colour { told with opened := [] } := ⟨by simp, htold.spans⟩
      exact ⟨_, add_closingTag hcolour rfl position, hnone.addSpan _⟩
  obtain ⟨b, hb, hnotice⟩ := hclosed
  have hopens : begun.add (.tag (noticeTag colour) 0) = .ok opened := add_noticeTag hcolour begun 0
  refine ⟨b.addPlain [], ?_, hnotice.addPlain []⟩
  rw [foldlM_cons_ok rfl, foldlM_cons_ok rfl, foldlM_cons_ok hopens, foldlM_cons_ok rfl,
    foldlM_cons_ok rfl, foldlM_cons_ok hb, foldlM_cons_ok rfl]
  rfl

/-- A notice without opening brackets is shown. -/
theorem exists_render_bold (width : Nat) {colour : String} (hcolour : IsNoticeColour colour) {t : Text}
    (ht : CodePoint.ofChar '[' ∉ t) : ∃ shown, render width (bold colour t) = .ok shown := by
  let ending := Text.ofString "[/bold " ++ Text.ofString colour ++ Text.ofString "]"
  obtain ⟨start, hopening⟩ := pieces_opening hcolour (t ++ ending)
  obtain ⟨position, pending, plain, htext⟩ := exists_pieces_append ht start 0 [] ending
  obtain ⟨u, w, p, hclosing, hp⟩ := pieces_closing hcolour position pending plain
  have hpieces : Piece.ofMessage (bold colour t) =
      [.plain [], .plain [], .tag (noticeTag colour) 0, .plain u, .plain w, p, .plain []] := by
    rw [← hclosing, ← htext, ← hopening]
    simp [bold, ending]
  obtain ⟨a, ha, hnotice⟩ := exists_assembly (u := u) (w := w) hcolour hp
  rw [← hpieces] at ha
  have hspans : ∀ s ∈ (a.closeAll.spans.mergeSort fun s t => s.start ≤ t.start).filter fun s =>
      s.isRead width a.closeAll.text, s.style = noticeStyle colour := by
    intro s hs
    exact hnotice.closeAll s (List.mem_mergeSort.mp (List.mem_filter.mp hs).1)
  refine ⟨Layout.arrange width a.closeAll.text ++ Text.ofString "\n", ?_⟩
  rw [render, ha]
  simp only [bind, Except.bind, checkSpans_eq_ok hcolour hspans]
  rfl

end JsonTypings.Markup

namespace JsonTypings.CommandLine

/-- A console shows what it is told in bold type, as long as no bracket opens in that. -/
def Console.ShowsPlain (console : Console) : Prop :=
  ∀ (colour : String) (t : Text), Markup.IsNoticeColour colour → CodePoint.ofChar '[' ∉ t →
    ∃ shown, console (bold colour t) = .ok shown

theorem showsPlain_render (width : Nat) : Console.ShowsPlain (Markup.render width) :=
  fun _ _ hcolour ht => Markup.exists_render_bold width hcolour ht

end JsonTypings.CommandLine
