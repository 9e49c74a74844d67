import JsonTypings.Emoji
import JsonTypings.Markup.Layout
import JsonTypings.Markup.Parameter
import JsonTypings.Markup.Piece
import JsonTypings.Markup.Style

/-! Messages with style tags, of which a terminal without styles shows the text alone. Tags are
matched up and their styles are read nevertheless, so a message can be refused. -/
namespace JsonTypings.Markup

/-- Why a message is refused. -/
inductive MarkupError where
  | unmatched (t : Tag) (position : Nat)
  | nothingToClose (position : Nat)
  | parameters (e : ParameterError)
  | colour (e : Integer.IntegerError)

namespace MarkupError

/-- How a closing tag is wrong. -/
def closing (body : Text) (position : Nat) (fault : String) : Text :=
  Text.ofString "closing tag '[" ++ body ++ Text.ofString "]' at position " ++ Text.ofNat position ++
    Text.ofString fault

def message : MarkupError → Text
  | unmatched t position => closing t.body position " doesn't match any open tag"
  | nothingToClose position => closing (Text.ofString "/") position " has nothing to close"
  | parameters e => e.message
  | colour e => e.message

end MarkupError

/-- A style for a stretch of text. -/
structure Span where
  start : Nat
  stop : Nat
  style : Text
  deriving DecidableEq

/-- Controls that a terminal would act on are not shown: the bell, the backspace, vertical tabs, form
feeds and carriage returns. -/
def isStripped (c : CodePoint) : Bool := [7, 8, 11, 12, 13].contains c.val

/-- A message whose pieces are being put together: its text so far, the open tags with the places
where they were opened, and the spans, the last ones first. -/
structure Assembly where
  text : Text
  opened : List (Nat × Tag)
  spans : List Span

namespace Assembly

/-- Takes the first tag of a name out of some open tags. -/
def take? (name : Text) : List (Nat × Tag) → Option ((Nat × Tag) × List (Nat × Tag))
  | [] => none
  | tag :: rest =>
    if tag.2.name = name then some (tag, rest)
    else (take? name rest).map fun (found, others) => (found, tag :: others)

def addPlain (a : Assembly) (t : Text) : Assembly :=
  { a with text := a.text ++ (Emoji.replace t).filter fun c => !isStripped c }

def addSpan (a : Assembly) (start : Nat) (style : Text) : Assembly :=
  { a with spans := ⟨start, a.text.length, style⟩ :: a.spans }

def isDataTag (t : Tag) : Bool := t.name.head? = some (CodePoint.ofChar '@')

/-- Ends what an open tag began. Only now are the parameters of a tag for data read. -/
def finish (a : Assembly) (opened : Nat × Tag) : Except MarkupError Assembly :=
  if isDataTag opened.2 then
    (checkParameters (opened.2.parameters.getD [])).mapError .parameters |>.map fun _ => a
  else .ok (a.addSpan opened.1 opened.2.style)

/-- The normal form of the name of a tag. -/
def nameOf (t : Text) : Except MarkupError Text := (Style.normalize t).mapError .colour

def opening (a : Assembly) (t : Tag) : Except MarkupError Assembly :=
  (nameOf t.name).map fun name =>
    { a with opened := (a.text.length, { t with name := name }) :: a.opened }

/-- A closing tag that names a style closes the last open tag of that style; one with no name closes
the last open tag. -/
def closing (a : Assembly) (t : Tag) (position : Nat) : Except MarkupError Assembly :=
  let wanted := Text.trim (t.name.drop 1)
  if wanted = [] then
    match a.opened with
    | [] => .error (.nothingToClose position)
    | opened :: rest => Assembly.finish { a with opened := rest } opened
  else
    (nameOf wanted).bind fun name =>
      match take? name a.opened with
      | none => .error (.unmatched t position)
      | some (opened, rest) => Assembly.finish { a with opened := rest } opened

def add (a : Assembly) : Piece → Except MarkupError Assembly
  | .plain t => .ok (a.addPlain t)
  | .tag t position =>
    if t.name.head? = some (CodePoint.ofChar '/') then a.closing t position else a.opening t

/-- Tags left open reach to the end. -/
def closeAll (a : Assembly) : Assembly :=
  a.opened.foldl (fun a opened => a.addSpan opened.1 opened.2.style) a

end Assembly

/-- Whether a text is shown as it is, in one line. -/
def isOneLine (width : Nat) (t : Text) : Bool :=
  !t.contains (CodePoint.ofChar '\n') && !t.contains (CodePoint.ofChar '\t') &&
    (Layout.wrap width t).length == 1

/-- Whether the style of a span is read: in a text that is laid out anew, it has to cover more than
line ends. -/
def Span.isRead (width : Nat) (s : Span) (t : Text) : Bool :=
  isOneLine width t || ((t.take s.stop).drop s.start).any fun c => c ≠ CodePoint.ofChar '\n'

/-- Reads the styles of some spans; words that make no style are passed over. -/
def checkSpans : List Span → Except MarkupError Unit
  | [] => .ok ()
  | s :: rest =>
    match Style.read s.style with
    | .error (.share e) => .error (.colour e)
    | .error .unknown | .ok _ => checkSpans rest

/-- A message as it is shown on a terminal of some width, with a line feed behind it. -/
def render (width : Nat) (message : Text) : Except MarkupError Text := do
  let a := (← (Piece.ofMessage message).foldlM Assembly.add ⟨[], [], []⟩).closeAll
  checkSpans ((a.spans.mergeSort fun s t => s.start ≤ t.start).filter fun s => s.isRead width a.text)
  return Layout.arrange width a.text ++ Text.ofString "\n"

end JsonTypings.Markup
