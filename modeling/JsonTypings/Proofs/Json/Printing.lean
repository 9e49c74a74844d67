import JsonTypings.Proofs.Json.Escaping
import JsonTypings.Proofs.Json.Language
import JsonTypings.Proofs.Value.Induction

/-! A written value is a text that denotes the value, in both layouts. -/
namespace JsonTypings.Json

open StringUnit (contents)

/-- The text of a float is one token of a float, for the same float. -/
def IsFloatToken (x : Float) : Prop :=
  (Decimal.textOfFloat floatNames x, .float x) ∈ words ∨
    ∃ n : NumberLiteral, ¬ n.IsInteger ∧ n.text = Decimal.textOfFloat floatNames x ∧ n.float = x

/-- A value of which the text can be read, floats apart: no integer is too long, no two code points
of a text could be taken for a surrogate pair, and the keys of an object differ. -/
structure Regular (v : Value) : Prop where
  integers : ∀ n, .int n ∈ v.parts → (Text.ofNat n.natAbs).length ≤ digitLimit
  strings : ∀ t, .string t ∈ v.parts → t.Unpaired
  keys : ∀ members : Members, .object members ∈ v.parts →
    members.keys.Nodup ∧ ∀ key ∈ members.keys, key.Unpaired

theorem Regular.of_subset {v w : Value} (h : Regular v) (hparts : ∀ u ∈ w.parts, u ∈ v.parts) :
    Regular w where
  integers n hn := h.integers n (hparts _ hn)
  strings t ht := h.strings t (hparts _ ht)
  keys members hmembers := h.keys members (hparts _ hmembers)

/-- A value of which the text can be read. -/
structure Printable (v : Value) : Prop extends Regular v where
  floats : ∀ x, .float x ∈ v.parts → IsFloatToken x

namespace Printable

theorem of_subset {v w : Value} (h : Printable v) (hparts : ∀ u ∈ w.parts, u ∈ v.parts) :
    Printable w where
  toRegular := h.toRegular.of_subset hparts
  floats x hx := h.floats x (hparts _ hx)

theorem item {items : List Value} (h : Printable (.array items)) {v : Value} (hv : v ∈ items) :
    Printable v :=
  h.of_subset fun _ hu => Value.mem_parts_of_mem_items hv hu

theorem member {members : Members} (h : Printable (.object members)) {m : Text × Value}
    (hm : m ∈ members) :
    Printable m.2 :=
  h.of_subset fun _ hu => Value.mem_parts_of_mem_members hm hu

end Printable

/-! Numbers -/

theorem digitsNumber_concat (ds : List (Fin 10)) (d : Fin 10) :
    digitsNumber (ds ++ [d]) = 10 * digitsNumber ds + d := by
  simp [digitsNumber, Nat.ofDigits_cons, Nat.add_comm]

theorem ofChar_digitChar : ∀ d < 10, CodePoint.ofChar (Nat.digitChar d) = CodePoint.ofDigit d := by decide

/-- The digits that a number is written with. -/
theorem exists_digits (n : Nat) :
    ∃ ds : List (Fin 10), digitsText ds = Text.ofNat n ∧ digitsNumber ds = n ∧
    ds ≠ [] ∧ (ds.head? = some 0 → ds = [0]) := by
  induction n using Nat.strongRecOn with
  | _ n ih =>
    have hlast : n % 10 < 10 := Nat.mod_lt n (by decide)
    by_cases hn : n < 10
    · refine ⟨[⟨n, hn⟩], ?_, ?_, by simp, by simp⟩
      · rw [Text.ofNat, Nat.toDigits_of_lt_base hn, List.map_singleton, ofChar_digitChar n hn]
        rfl
      · simp [digitsNumber]
    · obtain ⟨ds, htext, hnumber, hne, hzero⟩ := ih (n / 10) (by omega)
      refine ⟨ds ++ [⟨n % 10, hlast⟩], ?_, ?_, by simp, ?_⟩
      · rw [Text.ofNat, Nat.toDigits_of_base_le (by decide) (Nat.not_lt.mp hn), List.map_append,
          List.map_singleton, ofChar_digitChar _ hlast, digitsText_append, htext]
        rfl
      · rw [digitsNumber_concat, hnumber]
        exact Nat.div_add_mod n 10
      · intro hhead
        rw [List.head?_append_of_ne_nil _ hne] at hhead
        rw [hzero hhead] at hnumber
        simp [digitsNumber] at hnumber
        omega

theorem denotes_ofInt {n : Int} (h : (Text.ofNat n.natAbs).length ≤ digitLimit) :
    Denotes (Text.ofInt n) (.int n) := by
  obtain ⟨ds, htext, hnumber, hne, hzero⟩ := exists_digits n.natAbs
  have hlength : ds.length ≤ digitLimit := by
    rw [← htext] at h
    simpa [digitsText] using h
  let literal (negative : Bool) : NumberLiteral := ⟨negative, ds, [], none, hne, hzero⟩
  have hread (negative : Bool) := Denotes.integer (n := literal negative) ⟨rfl, rfl⟩ hlength
  have hliteral (negative : Bool) :
      (literal negative).text = NumberLiteral.signText negative ++ digitsText ds := by
    simp [literal, NumberLiteral.text, NumberLiteral.fractionText]
  cases n with
  | ofNat k =>
    have hpositive := hread false
    rw [hliteral, htext] at hpositive
    simpa [literal, NumberLiteral.integer, NumberLiteral.signText, hnumber,
      Text.ofInt] using hpositive
  | negSucc k =>
    have hnegative := hread true
    rw [hliteral, htext] at hnegative
    have hvalue : (literal true).integer = .negSucc k := by
      have hk : digitsNumber ds = k + 1 := hnumber
      simp [literal, NumberLiteral.integer, hk, Int.negSucc_eq]
    rw [hvalue] at hnegative
    exact hnegative

theorem denotes_textOfFloat {x : Float} (h : IsFloatToken x) :
    Denotes (Decimal.textOfFloat floatNames x) (.float x) := by
  rcases h with h | ⟨n, hn, htext, hvalue⟩
  · exact .word h
  · rw [← htext, ← hvalue]
    exact .float hn

/-! Containers -/

/-- White space behind the last item. -/
theorem denotes_array_blank {items : List (Text × Value)} (hne : items ≠ [])
    (h : ∀ i ∈ items, Denotes i.1 i.2) {sp : Text} (hsp : IsBlank sp) :
    Denotes (CodePoint.ofChar '[' :: (commaSeparated (items.map Prod.fst) ++ sp ++ [CodePoint.ofChar ']']))
      (.array (items.map Prod.snd)) := by
  obtain ⟨init, ⟨t, v⟩, rfl⟩ := (List.eq_nil_or_concat' items).resolve_left hne
  rw [List.forall_mem_append] at h
  have hlast : Denotes t v := h.2 (t, v) List.mem_cons_self
  have hall : ∀ i ∈ init ++ [(t ++ sp, v)], Denotes i.1 i.2 := by
    rw [List.forall_mem_append]
    exact ⟨h.1, by simpa using hlast.append_blank hsp⟩
  have harray := Denotes.array (by simp) hall
  simpa [commaSeparated_concat] using harray

/-- White space behind the last member. -/
theorem denotes_object_blank {members : List MemberText} (hne : members ≠ [])
    (h : ∀ m ∈ members, Denotes m.text m.value) {sp : Text} (hsp : IsBlank sp) :
    Denotes (CodePoint.ofChar '\x7b' :: (commaSeparated (members.map MemberText.spelling) ++ sp ++
        [CodePoint.ofChar '\x7d']))
      (.object (Members.ofPairs (members.map MemberText.member))) := by
  obtain ⟨init, m, rfl⟩ := (List.eq_nil_or_concat' members).resolve_left hne
  rw [List.forall_mem_append] at h
  have hlast : Denotes m.text m.value := h.2 m List.mem_cons_self
  let last : MemberText := { m with text := m.text ++ sp }
  have hall : ∀ w ∈ init ++ [last], Denotes w.text w.value := by
    rw [List.forall_mem_append]
    exact ⟨h.1, by simpa [last] using hlast.append_blank hsp⟩
  have hobject := Denotes.object (by simp) hall
  simpa [last, commaSeparated_concat, MemberText.spelling, MemberText.member] using hobject

/-- What stands behind the comma of a separator. -/
def Layout.gap (l : Layout) (depth : Nat) : Text :=
  match l with
  | line => [' ']
  | indented _ => l.opening depth

theorem separator_eq (l : Layout) (depth : Nat) :
    l.separator depth = CodePoint.ofChar ',' :: l.gap depth := by
  cases l <;> rfl

theorem isBlank_indentation (n : Nat) :
    IsBlank (CodePoint.ofChar '\n' :: List.replicate n (CodePoint.ofChar ' ')) := by
  intro c hc
  simp only [List.mem_cons, List.mem_replicate] at hc
  rcases hc with rfl | ⟨-, rfl⟩ <;> rfl

theorem isBlank_opening (l : Layout) (depth : Nat) : IsBlank (l.opening depth) := by
  cases l with
  | line => exact isBlank_nil
  | indented step => exact isBlank_indentation _

theorem isBlank_gap (l : Layout) (depth : Nat) : IsBlank (l.gap depth) := by
  cases l with
  | line => exact isBlank_singleton rfl
  | indented step => exact isBlank_indentation _

theorem isBlank_closing (l : Layout) (depth : Nat) : IsBlank (l.closing depth) := by
  cases l with
  | line => exact isBlank_nil
  | indented step => exact isBlank_indentation _

variable {l : Layout} {depth : Nat}

/-- The text of an item behind the first one, without its comma. -/
def itemText (l : Layout) (depth : Nat) (v : Value) : Text := l.gap depth ++ writeAt l (depth + 1) v

/-- The text of a member behind some white space. -/
def memberText (l : Layout) (depth : Nat) (sp : Text) (m : Text × Value) : Text :=
  sp ++ quote m.1 ++ Text.ofString ": " ++ writeAt l (depth + 1) m.2

theorem append_writeItems (t : Text) (rest : List Value) :
    t ++ writeItems l depth rest = commaSeparated (t :: rest.map (itemText l depth)) := by
  induction rest generalizing t with
  | nil => simp [writeItems]
  | cons v rest ih =>
    rw [List.map_cons, commaSeparated_cons (by simp), ← ih, writeItems, separator_eq, itemText]
    simp

theorem append_writeMembers (t : Text) (rest : List (Text × Value)) :
    t ++ writeMembers l depth rest =
      commaSeparated (t :: rest.map (memberText l depth (l.gap depth))) := by
  induction rest generalizing t with
  | nil => simp [writeMembers]
  | cons m rest ih =>
    obtain ⟨key, v⟩ := m
    rw [List.map_cons, commaSeparated_cons (by simp), ← ih, writeMembers, separator_eq, memberText]
    simp

theorem writeAt_array (v : Value) (rest : List Value) :
    writeAt l depth (.array (v :: rest)) =
      CodePoint.ofChar '[' :: (commaSeparated ((l.opening depth ++ writeAt l (depth + 1) v) ::
        rest.map (itemText l depth)) ++ l.closing depth ++ [CodePoint.ofChar ']']) := by
  rw [writeAt, ← append_writeItems]
  simp [Text.ofString]

theorem writeAt_object (m : Text × Value) (rest : Members) :
    writeAt l depth (.object (m :: rest)) =
      CodePoint.ofChar '\x7b' :: (commaSeparated (memberText l depth (l.opening depth) m ::
        rest.map (memberText l depth (l.gap depth))) ++ l.closing depth ++ [CodePoint.ofChar '\x7d']) := by
  obtain ⟨key, v⟩ := m
  rw [writeAt, ← append_writeMembers]
  simp [Text.ofString, memberText]

/-- A written member spells its key and its value. -/
theorem exists_memberText {m : Text × Value} (hkey : m.1.Unpaired)
    (hvalue : Denotes (writeAt l (depth + 1) m.2) m.2) {sp : Text} (hsp : IsBlank sp) :
    ∃ u : MemberText, u.spelling = memberText l depth sp m ∧ u.member = m ∧ Denotes u.text u.value := by
  obtain ⟨units, hquote, hcontents⟩ := exists_quote hkey
  have hblank : IsBlank [CodePoint.ofChar ' '] := isBlank_singleton rfl
  refine ⟨⟨sp, units, [], CodePoint.ofChar ' ' :: writeAt l (depth + 1) m.2, m.2, hsp, isBlank_nil⟩,
    ?_, ?_, ?_⟩
  · simp [MemberText.spelling, memberText, hquote, Text.ofString]
  · simp [MemberText.member, hcontents]
  · exact hvalue.blank_append hblank

theorem exists_memberTexts {members : Members} (hkeys : ∀ m ∈ members, m.1.Unpaired)
    (hvalues : ∀ m ∈ members, Denotes (writeAt l (depth + 1) m.2) m.2) {sp : Text}
    (hsp : IsBlank sp) :
    ∃ us : List MemberText, us.map MemberText.spelling = members.map (memberText l depth sp) ∧
      us.map MemberText.member = members ∧ ∀ u ∈ us, Denotes u.text u.value := by
  induction members with
  | nil => exact ⟨[], rfl, rfl, by simp⟩
  | cons m members ih =>
    obtain ⟨hkey, hkeys⟩ := List.forall_mem_cons.mp hkeys
    obtain ⟨hvalue, hvalues⟩ := List.forall_mem_cons.mp hvalues
    obtain ⟨u, hspelling, hmember, hu⟩ := exists_memberText hkey hvalue hsp
    obtain ⟨us, hspellings, hmembers, hus⟩ := ih hkeys hvalues
    exact ⟨u :: us, by simp [hspelling, hspellings], by simp [hmember, hmembers],
      List.forall_mem_cons.mpr ⟨hu, hus⟩⟩

/-- A written value denotes the value, at any depth of either layout. -/
theorem denotes_writeAt (l : Layout) (depth : Nat) {v : Value} (h : Printable v) :
    Denotes (writeAt l depth v) v := by
  induction v using Value.induction generalizing depth with
  | null => exact .word (by simp [writeAt, words])
  | bool b => cases b <;> exact .word (by simp [writeAt, words])
  | int n => exact denotes_ofInt (h.integers n (by simp [Value.parts]))
  | float x => exact denotes_textOfFloat (h.floats x (by simp [Value.parts]))
  | string t =>
    obtain ⟨units, hquote, hcontents⟩ := exists_quote (h.strings t (by simp [Value.parts]))
    rw [writeAt, hquote, ← hcontents]
    exact .string units
  | array items ih =>
    cases items with
    | nil => exact .emptyArray isBlank_nil
    | cons v rest =>
      have hdenotes (w : Value) (hw : w ∈ v :: rest) : Denotes (writeAt l (depth + 1) w) w :=
        ih w hw (depth + 1) (h.item hw)
      let texts : List (Text × Value) :=
        (l.opening depth ++ writeAt l (depth + 1) v, v) :: rest.map fun w => (itemText l depth w, w)
      have htexts : ∀ i ∈ texts, Denotes i.1 i.2 := by
        simp only [texts, List.forall_mem_cons, List.forall_mem_map]
        exact ⟨(hdenotes v List.mem_cons_self).blank_append (isBlank_opening l depth), fun w hw =>
          (hdenotes w (List.mem_cons_of_mem _ hw)).blank_append (isBlank_gap l depth)⟩
      have harray := denotes_array_blank (by simp [texts]) htexts (isBlank_closing l depth)
      rw [writeAt_array]
      simpa [texts, Function.comp_def] using harray
  | object members ih =>
    cases members with
    | nil => exact .emptyObject isBlank_nil
    | cons m rest =>
      obtain ⟨hnodup, hunpaired⟩ := h.keys (m :: rest) (by simp)
      have hkeys : ∀ w ∈ m :: rest, w.1.Unpaired :=
        fun w hw => hunpaired w.1 (List.mem_map_of_mem hw)
      have hvalues : ∀ w ∈ m :: rest, Denotes (writeAt l (depth + 1) w.2) w.2 := fun w hw =>
        ih w hw (depth + 1) (h.member hw)
      rw [List.forall_mem_cons] at hkeys hvalues
      obtain ⟨u, hspelling, hmember, hu⟩ :=
        exists_memberText hkeys.1 hvalues.1 (isBlank_opening l depth)
      obtain ⟨us, hspellings, hmembers, hus⟩ :=
        exists_memberTexts hkeys.2 hvalues.2 (isBlank_gap l depth)
      have hall : ∀ w ∈ u :: us, Denotes w.text w.value := List.forall_mem_cons.mpr ⟨hu, hus⟩
      -- The keys differ, so no member takes the place of another.
      have hobject := denotes_object_blank (by simp) hall (isBlank_closing l depth)
      rw [List.map_cons, List.map_cons, hspelling, hspellings, hmember, hmembers,
        Members.ofPairs_eq_self hnodup] at hobject
      rwa [writeAt_object]

end JsonTypings.Json
