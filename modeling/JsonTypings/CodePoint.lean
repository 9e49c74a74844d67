/-! Code points and the texts made of them. A text may hold a surrogate on its own, as JSON
escapes can spell one, so it is a list of code points and not a `String`. -/
namespace JsonTypings

/-- A Unicode code point, surrogates included. -/
structure CodePoint where
  val : Nat
  val_lt : val < 0x110000
  deriving DecidableEq

namespace CodePoint

def ofChar (c : Char) : CodePoint :=
  ⟨c.toNat, by have h := c.valid; simp [UInt32.isValidChar, Nat.isValidChar] at h; omega⟩

instance : Coe Char CodePoint := ⟨ofChar⟩

/-- Numbers beyond the last code point stand for the replacement character. -/
def ofNat (n : Nat) : CodePoint :=
  if h : n < 0x110000 then ⟨n, h⟩ else ⟨0xFFFD, by decide⟩

instance : Inhabited CodePoint := ⟨ofNat 0⟩

@[simp] theorem ofChar_val (c : Char) : (ofChar c).val = c.toNat := rfl

theorem ofNat_val {n : Nat} (h : n < 0x110000) : (ofNat n).val = n := by simp [ofNat, h]

@[simp] theorem ofNat_self (c : CodePoint) : ofNat c.val = c := by
  cases c; simp_all [ofNat]

/-- Leading halves of surrogate pairs. -/
def isHighSurrogate (c : CodePoint) : Bool := 0xD800 ≤ c.val && c.val < 0xDC00

/-- Trailing halves of surrogate pairs. -/
def isLowSurrogate (c : CodePoint) : Bool := 0xDC00 ≤ c.val && c.val < 0xE000

def isSurrogate (c : CodePoint) : Bool := 0xD800 ≤ c.val && c.val < 0xE000

/-- The code point beyond U+FFFF that a surrogate pair stands for. -/
def joinSurrogates (high low : CodePoint) : CodePoint :=
  ofNat (0x10000 + (high.val - 0xD800) * 0x400 + (low.val - 0xDC00))

/-- The surrogate pair of a code point beyond U+FFFF. -/
def splitSurrogates (c : CodePoint) : CodePoint × CodePoint :=
  (ofNat (0xD800 + (c.val - 0x10000) / 0x400), ofNat (0xDC00 + (c.val - 0x10000) % 0x400))

/-- Splitting a code point and joining the halves gives it back. -/
theorem joinSurrogates_splitSurrogates (c : CodePoint) (h : 0x10000 ≤ c.val) :
    joinSurrogates c.splitSurrogates.1 c.splitSurrogates.2 = c := by
  have hc := c.val_lt
  have h₁ : 0xD800 + (c.val - 0x10000) / 0x400 < 0x110000 := by omega
  have h₂ : 0xDC00 + (c.val - 0x10000) % 0x400 < 0x110000 := by omega
  have : 0x10000 + (c.val - 0x10000) / 0x400 * 0x400 + (c.val - 0x10000) % 0x400 = c.val := by omega
  simp only [joinSurrogates, splitSurrogates, ofNat_val h₁, ofNat_val h₂, Nat.add_sub_cancel_left]
  rw [this, ofNat_self]

/-- Whether a code point lies in one of some closed intervals. -/
def isWithin (c : CodePoint) (intervals : List (Nat × Nat)) : Bool :=
  intervals.any fun i => i.1 ≤ c.val && c.val ≤ i.2

/-- The value of an ASCII digit. -/
def digit? (c : CodePoint) : Option Nat :=
  if 0x30 ≤ c.val && c.val ≤ 0x39 then some (c.val - 0x30) else none

/-- The value of an ASCII hexadecimal digit of either case. -/
def hexDigit? (c : CodePoint) : Option Nat :=
  if 0x30 ≤ c.val && c.val ≤ 0x39 then some (c.val - 0x30)
  else if 0x61 ≤ c.val && c.val ≤ 0x66 then some (c.val - 0x57)
  else if 0x41 ≤ c.val && c.val ≤ 0x46 then some (c.val - 0x37)
  else none

/-- The digit of a number below ten. -/
def ofDigit (d : Nat) : CodePoint := ofNat (0x30 + d)

/-- The lower case hexadecimal digit of a number below sixteen. -/
def ofHexDigit (d : Nat) : CodePoint := ofNat (if d < 10 then 0x30 + d else 0x57 + d)

theorem digit?_ofDigit : ∀ d < 10, (ofDigit d).digit? = some d := by decide

theorem hexDigit?_ofHexDigit : ∀ d < 16, (ofHexDigit d).hexDigit? = some d := by decide

end CodePoint

/-- A sequence of code points. -/
abbrev Text := List CodePoint

namespace Text

def ofString (s : String) : Text := s.toList.map CodePoint.ofChar

/-- The `String` of a text; a surrogate, which no `String` can hold, becomes the replacement
character. -/
def toString (t : Text) : String :=
  String.ofList (t.map fun c => if c.isSurrogate then '\uFFFD' else Char.ofNat c.val)

/-- The decimal digits of a number, without leading zeros. -/
def ofNat (n : Nat) : Text := (Nat.toDigits 10 n).map CodePoint.ofChar

/-- The decimal text of an integer, with a minus sign where it is negative. -/
def ofInt : Int → Text
  | .ofNat n => ofNat n
  | .negSucc n => CodePoint.ofChar '-' :: ofNat (n + 1)

/-- The lower case hexadecimal digits of `n`, exactly `width` of them. -/
def hex (width n : Nat) : Text :=
  match width with
  | 0 => []
  | width + 1 => hex width (n / 16) ++ [CodePoint.ofHexDigit (n % 16)]

/-- Blanks in front of a text, up to a width. -/
def padLeft (width : Nat) (t : Text) : Text := List.replicate (width - t.length) (CodePoint.ofChar ' ') ++ t

/-- Blanks behind a text, up to a width. -/
def padRight (width : Nat) (t : Text) : Text := t ++ List.replicate (width - t.length) (CodePoint.ofChar ' ')

/-- The stretches between the code points of one kind, at least one stretch. -/
def splitOn (mark : CodePoint) : Text → List Text
  | [] => [[]]
  | c :: rest =>
    if c = mark then [] :: splitOn mark rest
    else
      match splitOn mark rest with
      | [] => [[c]]
      | first :: more => (c :: first) :: more

theorem splitOn_ne_nil (mark : CodePoint) (t : Text) : splitOn mark t ≠ [] := by
  cases t with
  | nil => simp [splitOn]
  | cons c rest => unfold splitOn; split <;> (try split) <;> simp

@[simp] theorem splitOn_mark (mark : CodePoint) (t : Text) :
    splitOn mark (mark :: t) = [] :: splitOn mark t := by
  simp [splitOn]

/-- What stands before a mark does not change how the rest is divided. -/
theorem splitOn_append (mark : CodePoint) (a b : Text) :
    splitOn mark (a ++ mark :: b) = splitOn mark a ++ splitOn mark b := by
  induction a with
  | nil => simp [splitOn]
  | cons c rest ih =>
    by_cases h : c = mark
    · simp [splitOn, h, ih]
    · simp only [List.cons_append, splitOn, h, if_false, ih]
      cases hs : splitOn mark rest with
      | nil => exact absurd hs (splitOn_ne_nil mark rest)
      | cons first more => rfl

@[simp] theorem length_hex (width n : Nat) : (hex width n).length = width := by
  induction width generalizing n with
  | zero => rfl
  | succ width ih => simp [hex, ih]

end Text

end JsonTypings
