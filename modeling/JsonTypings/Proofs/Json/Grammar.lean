import JsonTypings.Json.Reader
import JsonTypings.Proofs.Value.Members
import Mathlib.Data.Nat.Digits.Defs

/-! The texts of JSON and the values that they stand for. Numbers may also be `NaN` and infinite,
and integers have at most `digitLimit` digits. -/
namespace JsonTypings.Json

/-- White space, or nothing. -/
def IsBlank (t : Text) : Prop := ∀ c ∈ t, isSpace c = true

theorem IsBlank.append {t u : Text} (ht : IsBlank t) (hu : IsBlank u) : IsBlank (t ++ u) := by
  intro c hc
  exact (List.mem_append.mp hc).elim (ht c) (hu c)

theorem isBlank_nil : IsBlank [] := fun _ hc => by cases hc

theorem isBlank_singleton {c : CodePoint} (hc : isSpace c = true) : IsBlank [c] := by
  intro d hd
  rwa [List.mem_singleton.mp hd]

def digitsText (ds : List (Fin 10)) : Text := ds.map fun d => CodePoint.ofDigit d.val

/-- The number of some decimal digits, the first of which counts most. -/
def digitsNumber (ds : List (Fin 10)) : Nat := Nat.ofDigits 10 (ds.reverse.map Fin.val)

/-- The end of a number that scales it by a power of ten. -/
structure ExponentLiteral where
  mark : CodePoint
  sign : Text
  digits : List (Fin 10)
  mark_mem : mark = 'e' ∨ mark = 'E'
  sign_mem : sign = [] ∨ sign = Text.ofString "+" ∨ sign = Text.ofString "-"
  digits_ne_nil : digits ≠ []

namespace ExponentLiteral

def text (e : ExponentLiteral) : Text := e.mark :: (e.sign ++ digitsText e.digits)

def power (e : ExponentLiteral) : Int :=
  if e.sign = Text.ofString "-" then -(digitsNumber e.digits : Int) else digitsNumber e.digits

end ExponentLiteral

/-- A number as it is written. Only a zero begins with a zero, and there is no fraction of no
digits. -/
structure NumberLiteral where
  negative : Bool
  whole : List (Fin 10)
  fraction : List (Fin 10)
  exponent : Option ExponentLiteral
  whole_ne_nil : whole ≠ []
  leading_zero : whole.head? = some 0 → whole = [0]

namespace NumberLiteral

def signText (negative : Bool) : Text := if negative then Text.ofString "-" else []

def fractionText (ds : List (Fin 10)) : Text :=
  if ds = [] then [] else CodePoint.ofChar '.' :: digitsText ds

def text (n : NumberLiteral) : Text :=
  signText n.negative ++ digitsText n.whole ++ fractionText n.fraction ++
    (n.exponent.map ExponentLiteral.text).getD []

/-- Without fraction and exponent a number is an integer, else a float. -/
def IsInteger (n : NumberLiteral) : Prop := n.fraction = [] ∧ n.exponent = none

def integer (n : NumberLiteral) : Int :=
  if n.negative then -(digitsNumber n.whole : Int) else digitsNumber n.whole

/-- The float nearest to all digits, scaled down by those of the fraction. -/
def float (n : NumberLiteral) : Float :=
  let digits := n.whole ++ n.fraction
  Binary64.ofDecimal n.negative (digitsNumber digits) digits.length
    ((n.exponent.map ExponentLiteral.power).getD 0 - n.fraction.length)

end NumberLiteral

/-- What a backslash and a letter stand for. -/
def shortEscapes : List (CodePoint × CodePoint) :=
  [('"', '"'), ('\\', '\\'), ('/', '/'), ('b', '\x08'), ('f', '\x0c'), ('n', '\n'), ('r', '\r'),
    ('t', '\t')]

/-- What may stand between the quotes of a string. -/
inductive StringUnit where
  /-- A code point for itself. -/
  | plain (c : CodePoint) (visible : 0x20 ≤ c.val) (unquoted : c ≠ '"' ∧ c ≠ '\\')
  /-- A backslash and a letter. -/
  | short (letter meaning : CodePoint) (listed : (letter, meaning) ∈ shortEscapes)
  /-- A backslash, the letter `u` and four hexadecimal digits of either case. -/
  | unicode (digits : Text) (values : List (Fin 16)) (four : values.length = 4)
    (spelled : digits.map CodePoint.hexDigit? = values.map fun d => some d.val)

namespace StringUnit

def text : StringUnit → Text
  | plain c _ _ => [c]
  | short letter _ _ => [CodePoint.ofChar '\\', letter]
  | unicode digits _ _ _ => CodePoint.ofChar '\\' :: CodePoint.ofChar 'u' :: digits

/-- The code point that a unit stands for by itself. -/
def codePoint : StringUnit → CodePoint
  | plain c _ _ => c
  | short _ meaning _ => meaning
  | unicode _ values _ _ => CodePoint.ofNat (Nat.ofDigits 16 (values.reverse.map Fin.val))

def isUnicode : StringUnit → Bool
  | unicode _ _ _ _ => true
  | _ => false

/-- Whether two escapes in a row spell the halves of a surrogate pair. -/
def joins (u w : StringUnit) : Bool :=
  u.isUnicode && w.isUnicode && u.codePoint.isHighSurrogate && w.codePoint.isLowSurrogate

/-- The text that some units stand for. An escaped high surrogate and an escaped low one directly
behind it are one code point. -/
def contents : List StringUnit → Text
  | [] => []
  | [u] => [u.codePoint]
  | u :: w :: rest =>
    if u.joins w then u.codePoint.joinSurrogates w.codePoint :: contents rest
    else u.codePoint :: contents (w :: rest)

end StringUnit

/-- A string as it is written. -/
def stringText (units : List StringUnit) : Text :=
  CodePoint.ofChar '"' :: (units.flatMap StringUnit.text ++ [CodePoint.ofChar '"'])

/-- A member of an object as it is written. White space around the value belongs to the text of the
value. -/
structure MemberText where
  before : Text
  key : List StringUnit
  between : Text
  text : Text
  value : Value
  before_blank : IsBlank before
  between_blank : IsBlank between

namespace MemberText

def spelling (m : MemberText) : Text :=
  m.before ++ stringText m.key ++ m.between ++ CodePoint.ofChar ':' :: m.text

def member (m : MemberText) : Text × Value := (StringUnit.contents m.key, m.value)

end MemberText

/-- The values that are written as words. -/
def words : List (Text × Value) :=
  [(Text.ofString "null", .null), (Text.ofString "true", .bool true), (Text.ofString "false", .bool false),
    (Text.ofString "NaN", .float (0.0 / 0.0)), (Text.ofString "Infinity", .float (1.0 / 0.0)),
    (Text.ofString "-Infinity", .float (-1.0 / 0.0))]

/-- Texts with commas between them. -/
def commaSeparated (ts : List Text) : Text := List.intercalate [CodePoint.ofChar ','] ts

@[simp] theorem commaSeparated_singleton (t : Text) :
    commaSeparated [t] = t := by simp [commaSeparated]

theorem commaSeparated_cons {ts : List Text} (h : ts ≠ []) (t : Text) :
    commaSeparated (t :: ts) = t ++ CodePoint.ofChar ',' :: commaSeparated ts := by
  simp [commaSeparated, List.intercalate_cons_of_ne_nil h]

/-- Texts with a comma behind each. -/
def commaEnded (ts : List Text) : Text := ts.flatMap fun t => t ++ [CodePoint.ofChar ',']

theorem commaEnded_concat (ts : List Text) (t : Text) :
    commaEnded (ts ++ [t]) = commaEnded ts ++ t ++ [CodePoint.ofChar ','] := by
  simp [commaEnded]

theorem commaSeparated_concat (ts : List Text) (t : Text) :
    commaSeparated (ts ++ [t]) = commaEnded ts ++ t := by
  induction ts with
  | nil => simp [commaEnded]
  | cons u ts ih =>
    rw [List.cons_append, commaSeparated_cons (by simp), ih]
    simp [commaEnded]

theorem commaEnded_of_ne_nil {ts : List Text} (h : ts ≠ []) :
    commaEnded ts = commaSeparated ts ++ [CodePoint.ofChar ','] := by
  obtain ⟨init, t, rfl⟩ := (List.eq_nil_or_concat' ts).resolve_left h
  rw [commaEnded_concat, commaSeparated_concat]

/-- What a text stands for. Of members with the same key the first one gives the place and the last
one the value. -/
inductive Denotes : Text → Value → Prop
  | padded {before t after : Text} {v : Value} (hbefore : IsBlank before) (hafter : IsBlank after)
    (h : Denotes t v) : Denotes (before ++ t ++ after) v
  | word {t : Text} {v : Value} (h : (t, v) ∈ words) : Denotes t v
  | integer {n : NumberLiteral} (h : n.IsInteger) (hlimit : n.whole.length ≤ digitLimit) :
    Denotes n.text (.int n.integer)
  | float {n : NumberLiteral} (h : ¬ n.IsInteger) : Denotes n.text (.float n.float)
  | string (units : List StringUnit) : Denotes (stringText units) (.string (StringUnit.contents units))
  | emptyArray {t : Text} (h : IsBlank t) :
    Denotes (CodePoint.ofChar '[' :: (t ++ [CodePoint.ofChar ']'])) (.array [])
  | array {items : List (Text × Value)} (hne : items ≠ []) (h : ∀ i ∈ items, Denotes i.1 i.2) :
    Denotes (CodePoint.ofChar '[' :: (commaSeparated (items.map Prod.fst) ++ [CodePoint.ofChar ']']))
      (.array (items.map Prod.snd))
  | emptyObject {t : Text} (h : IsBlank t) :
    Denotes (CodePoint.ofChar '\x7b' :: (t ++ [CodePoint.ofChar '\x7d'])) (.object [])
  | object {members : List MemberText} (hne : members ≠ []) (h : ∀ m ∈ members, Denotes m.text m.value) :
    Denotes
      (CodePoint.ofChar '\x7b' ::
        (commaSeparated (members.map MemberText.spelling) ++ [CodePoint.ofChar '\x7d']))
      (.object (Members.ofPairs (members.map MemberText.member)))

theorem Denotes.blank_append {sp t : Text} {v : Value} (hsp : IsBlank sp) (h : Denotes t v) :
    Denotes (sp ++ t) v := by
  have hpadded := Denotes.padded hsp isBlank_nil h
  rwa [List.append_nil] at hpadded

theorem Denotes.append_blank {sp t : Text} {v : Value} (h : Denotes t v) (hsp : IsBlank sp) :
    Denotes (t ++ sp) v := by
  have hpadded := Denotes.padded isBlank_nil hsp h
  rwa [List.nil_append] at hpadded

end JsonTypings.Json
