import JsonTypings.CodePoint.Lower
import JsonTypings.CodePoint.Printable
import JsonTypings.CodePoint.Word
import JsonTypings.Literal.Numeral

/-! Cuts a text into tokens. Line ends and indentation count outside of brackets. -/
namespace JsonTypings.Literal

/-- The tokens of a text up to where it ends or no further one can be read, and the brackets that are
open there, the innermost first. -/
structure Scan where
  tokens : Array Token
  halt : Option LexicalError
  brackets : List Bracket
  /-- Whether the end of the text had to be seen to know where the last token ends. -/
  isEndSeen : Bool

namespace Scan

/-- The column in which a line starts, where tabs lead to multiples of eight, and where they count for
one. Lines are compared in both ways, so that it does not matter how tabs are shown. -/
structure Column where
  wide : Nat
  narrow : Nat
  deriving DecidableEq

namespace Column

def first : Column := ⟨0, 0⟩

def addBlank (c : Column) : Column := ⟨c.wide + 1, c.narrow + 1⟩

def addTab (c : Column) : Column := ⟨(c.wide / 8 + 1) * 8, c.narrow + 1⟩

/-- A line that goes on behind a backslash starts in the column of its first part, if that is not the
first column. -/
def orPart (c : Column) (part : Nat) : Column := if part = 0 then c else ⟨part, part⟩

end Column

/-- What is still to be cut into tokens, on which line, with the open brackets and the columns of the
indented lines, the innermost first. -/
structure State where
  rest : Text
  line : Nat
  brackets : List Bracket
  indents : List Column

/-- The beginnings of strings other than quotes. -/
def stringLetters : List Text :=
  ["b", "f", "r", "u", "br", "fr", "rb", "rf"].map Text.ofString

def isQuote (c : CodePoint) : Bool := c = '"' || c = '\x27'

/-- The letters before the quote of a string that a text starts with. -/
def stringLetters? (t : Text) : Option Text :=
  let letters := t.takeWhile fun c => c.isWithin [(0x41, 0x5A), (0x61, 0x7A)]
  if (letters = [] || stringLetters.contains (Text.lower letters)) &&
      Numeral.startsWith isQuote (t.drop letters.length) then some letters
  else none

/-- The text behind a string and its line. The string ends behind `size` quotes in a row, of which
`count` have come; a backslash before a code point makes it count for nothing. -/
def closeString (quote : CodePoint) (size count : Nat) (isEscaped : Bool) (line : Nat) :
    Text → Except LexicalError (Text × Nat)
  | [] => .error (if size = 1 then .unterminatedString line else .unterminatedTriple line)
  | c :: rest =>
    let next := if c = '\n' then line + 1 else line
    if isEscaped then closeString quote size 0 false next rest
    else if c = quote then
      if count + 1 = size then .ok (rest, next) else closeString quote size (count + 1) false next rest
    else if c = '\n' && size = 1 then .error (.unterminatedString line)
    else closeString quote size 0 (c = '\\') next rest

/-- The text behind a string that starts with a quote, and its line. -/
def scanString (line : Nat) : Text → Except LexicalError (Text × Nat)
  | quote :: second :: third :: rest =>
    if second ≠ quote then closeString quote 1 0 false line (second :: third :: rest)
    else if third ≠ quote then .ok (third :: rest, line)
    else closeString quote 3 0 false line rest
  | [quote, second] =>
    if second = quote then .ok ([], line) else closeString quote 1 0 false line [second]
  | _ => .error (.unterminatedString line)

/-- Signs of several code points, the longer ones first. -/
def longSigns : List Text :=
  ["**=", "//=", "<<=", ">>=", "...", "!=", "%=", "&=", "**", "*=", "+=", "-=", "->", "//", "/=",
    ":=", "<<", "<=", "<>", "==", ">=", ">>", "@=", "^=", "|="].map Text.ofString

/-- The most brackets that may be open. -/
def bracketLimit : Nat := 200

/-- The opening bracket that a closing one belongs to. -/
def opening? (c : CodePoint) : Option CodePoint :=
  if c = ')' then some '(' else if c = ']' then some '[' else if c = '}' then some '\x7b' else none

def isOpening (c : CodePoint) : Bool := c = '(' || c = '[' || c = '\x7b'

/-- The open brackets after a sign. -/
def addSign (brackets : List Bracket) (line : Nat) (c : CodePoint) :
    Except LexicalError (List Bracket) :=
  if isOpening c then
    if bracketLimit ≤ brackets.length then .error .tooManyBrackets else .ok (⟨c, line⟩ :: brackets)
  else
    match opening? c, brackets with
    | none, _ => if c.isPrintable then .ok brackets else .error (.unprintable c)
    | some _, [] => .error (.unmatched c)
    | some opening, b :: outer =>
      if b.mark = opening then .ok outer
      else .error (.mismatched c b.mark (if b.line = line then none else some b.line))

/-- A name may hold letters beyond ASCII; the first code point that no name has is told. -/
def checkName : Text → Except LexicalError Unit
  | [] => .ok ()
  | first :: rest =>
    let bad? :=
      if first.isNameStart then rest.find? fun (c : CodePoint) => !c.isNameTail else some first
    match bad? with
    | none => .ok ()
    | some c => .error (if c.isPrintable then .character c else .unprintable c)

/-- The column in which a line starts, how many lines ended before it does, and the text from there
on. The first part of the line starts in column `part`. -/
def indentation (column : Column) (part passed : Nat) : Text → Column × Nat × Text
  | [] => (column.orPart part, passed, [])
  | c :: rest =>
    if c = ' ' then indentation column.addBlank part passed rest
    else if c = '\t' then indentation column.addTab part passed rest
    else if c = '\x0C' then indentation Column.first part passed rest
    else
      let found := (column.orPart part, passed, c :: rest)
      if c ≠ '\\' then found
      else
        match rest with
        | [] => found
        | d :: rest =>
          if d = '\n' then indentation column (if part = 0 then column.wide else part) (passed + 1) rest
          else found

def isGap (c : CodePoint) : Bool := c = ' ' || c = '\t' || c = '\x0C'

/-- A text without the blanks, and without the comment behind them. -/
def dropGap (t : Text) : Text :=
  let t := t.dropWhile isGap
  if Numeral.startsWith (fun c => c = '#') t then t.dropWhile fun c => c ≠ '\n' else t

namespace State

def token (s : State) (kind : TokenKind) (text : Text) : Token := ⟨kind, text, s.line, s.brackets.length⟩

/-- Ends the scan where no token can be read. -/
def stop (s : State) (tokens : Array Token) (e : LexicalError) : Scan := ⟨tokens, some e, s.brackets, false⟩

/-- Whether a token might go on behind its last code point. -/
def isOpenEnded (t : Token) : Bool := t.kind ≠ .string && !(t.kind = .sign && t.text.length = 3)

/-- Ends the scan at the end of the text, which follows the last token directly or not. -/
def finish (s : State) (tokens : Array Token) (isDirect : Bool) : Scan :=
  match s.brackets with
  | [] => ⟨tokens.push (s.token .ending []), none, [], true⟩
  | b :: _ =>
    ⟨tokens, some (.neverClosed b.mark), s.brackets, isDirect && tokens.back?.any isOpenEnded⟩

/-- The tokens for a line that starts in some column. -/
def indent (s : State) (column : Column) : Except LexicalError (State × List Token) :=
  let current := s.indents.head?.getD Column.first
  if current.wide < column.wide then
    if column.narrow ≤ current.narrow then .error .indentation
    else .ok ({ s with indents := column :: s.indents }, [s.token .indent []])
  else
    let kept := s.indents.dropWhile fun indent => column.wide < indent.wide
    if kept.head?.getD Column.first = column then
      .ok ({ s with indents := kept },
        List.replicate (s.indents.length - kept.length) (s.token .dedent []))
    else .error .indentation

/-- The token that the text starts with, which is neither blank nor a line end nor a backslash, and
what comes behind it. -/
def next (s : State) (c : CodePoint) (rest : Text) : Except LexicalError (Token × State) :=
  let take (kind : TokenKind) (after : Text) (line : Nat) : Token × State :=
    (s.token kind (s.rest.take (s.rest.length - after.length)), { s with rest := after, line := line })
  match stringLetters? s.rest with
  | some letters =>
    (scanString s.line (s.rest.drop letters.length)).map fun (after, line) => take .string after line
  | none =>
    if Numeral.isDigit c || (c = '.' && Numeral.startsWith Numeral.isDigit rest) then
      (Numeral.scan s.rest).map fun after => take .number after s.line
    else if Numeral.isNamePoint c then
      let word := s.rest.takeWhile Numeral.isNamePoint
      (checkName word).map fun _ =>
        take (if keywords.contains word then .keyword else .name) (s.rest.drop word.length) s.line
    else
      match longSigns.find? (·.isPrefixOf s.rest) with
      | some sign => .ok (take .sign (s.rest.drop sign.length) s.line)
      | none =>
        (addSign s.brackets s.line c).map fun brackets =>
          (⟨.sign, [c], s.line, brackets.length⟩, { s with rest := rest, brackets := brackets })

/-- Reads on, at the start of a line if `isFresh` says so, in at most as many steps as `fuel` says. -/
def run (fuel : Nat) (isFresh : Bool) (s : State) (tokens : Array Token) : Scan :=
  match fuel with
  | 0 => s.finish tokens true
  | fuel + 1 =>
    let isDirect := s.rest.isEmpty
    let (column, passed, text) :=
      if isFresh then indentation Column.first 0 0 s.rest else (Column.first, 0, s.rest)
    let text := dropGap text
    let isBlank := isFresh && (text = [] || Numeral.startsWith (fun c => c = '\n') text)
    let s := { s with rest := text, line := s.line + passed }
    let indented : Except LexicalError (State × List Token) :=
      if isFresh && Numeral.startsWith (fun c => c = '\\') text then .error .strayBackslash
      else if isFresh && !isBlank && s.brackets.isEmpty then s.indent column
      else .ok (s, [])
    match indented with
    | .error e => s.stop tokens e
    | .ok (s, indents) =>
      let tokens := tokens ++ indents
      match s.rest with
      | [] => s.finish tokens isDirect
      | c :: rest =>
        if c = '\n' then
          let tokens :=
            if isBlank || !s.brackets.isEmpty then tokens else tokens.push (s.token .lineEnd [])
          run fuel true { s with rest := rest, line := s.line + 1 } tokens
        else if c = '\\' then
          match rest with
          | d :: rest =>
            if d = '\n' then run fuel false { s with rest := rest, line := s.line + 1 } tokens
            else s.stop tokens .strayBackslash
          | [] => s.stop tokens .strayBackslash
        else
          match s.next c rest with
          | .error e => s.stop tokens e
          | .ok (t, s) => run fuel false s (tokens.push t)

end State

/-- The tokens of a text. -/
def ofText (t : Text) : Scan := State.run (t.length + 1) true ⟨t, 1, [], []⟩ #[]

end Scan

end JsonTypings.Literal
