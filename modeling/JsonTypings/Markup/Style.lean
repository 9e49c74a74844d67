import JsonTypings.Markup.Colour

/-! Styles of type. Tags that ask for the same style in other words count as the same tag, so a style
has one normal form. -/
namespace JsonTypings.Markup

/-- What a style may switch on or off. -/
inductive Attribute where
  | bold | dim | italic | underline | blink | blink2 | reverse | conceal | strike | underline2
  | frame | encircle | overline
  deriving DecidableEq

namespace Attribute

/-- The attributes in the order in which a style names them. -/
def all : List Attribute :=
  [bold, dim, italic, underline, blink, blink2, reverse, conceal, strike, underline2, frame,
    encircle, overline]

def name : Attribute → Text
  | bold => Text.ofString "bold"
  | dim => Text.ofString "dim"
  | italic => Text.ofString "italic"
  | underline => Text.ofString "underline"
  | blink => Text.ofString "blink"
  | blink2 => Text.ofString "blink2"
  | reverse => Text.ofString "reverse"
  | conceal => Text.ofString "conceal"
  | strike => Text.ofString "strike"
  | underline2 => Text.ofString "underline2"
  | frame => Text.ofString "frame"
  | encircle => Text.ofString "encircle"
  | overline => Text.ofString "overline"

/-- The short name that some attributes have. -/
def shortName? : Attribute → Option Text
  | bold => some (Text.ofString "b")
  | dim => some (Text.ofString "d")
  | italic => some (Text.ofString "i")
  | underline => some (Text.ofString "u")
  | reverse => some (Text.ofString "r")
  | conceal => some (Text.ofString "c")
  | strike => some (Text.ofString "s")
  | underline2 => some (Text.ofString "uu")
  | overline => some (Text.ofString "o")
  | blink | blink2 | frame | encircle => none

def ofName? (word : Text) : Option Attribute :=
  all.find? fun a => a.name = word || a.shortName? = some word

end Attribute

/-- A style: the attributes that it sets, each once, its colours, and a link. -/
structure Style where
  attributes : List (Attribute × Bool)
  colour : Option Text
  background : Option Text
  link : Option Text
  deriving DecidableEq

namespace Style

def plain : Style := ⟨[], none, none, none⟩

def set (s : Style) (a : Attribute) (isOn : Bool) : Style :=
  { s with attributes := (a, isOn) :: s.attributes.filter fun set => set.1 ≠ a }

/-- Adds what some words ask for; a later word counts more than an earlier one. -/
def addWords (s : Style) : List Text → Except StyleError Style
  | [] => .ok s
  | first :: rest =>
    let word := first.lower
    if word = Text.ofString "on" then
      match rest with
      | [] => .error .unknown
      | colour :: rest =>
        match Colour.ofWord colour with
        | .error e => .error e
        | .ok colour => addWords { s with background := some colour } rest
    else if word = Text.ofString "not" then
      match rest with
      | [] => .error .unknown
      | name :: rest =>
        match Attribute.ofName? name with
        | none => .error .unknown
        | some a => addWords (s.set a false) rest
    else if word = Text.ofString "link" then
      match rest with
      | [] => .error .unknown
      | target :: rest => addWords { s with link := some target } rest
    else
      match Attribute.ofName? word with
      | some a => addWords (s.set a true) rest
      | none =>
        match Colour.ofWord word with
        | .error e => .error e
        | .ok colour => addWords { s with colour := some colour } rest

/-- The word for the plain style. -/
def plainWord : Text := Text.ofString "none"

/-- The style that a text describes. -/
def read (t : Text) : Except StyleError Style :=
  if t.trim = plainWord then .ok plain else addWords plain t.words

/-- The words of a style, which describe it again. -/
def toWords (s : Style) : List Text :=
  let setting (a : Attribute) : Option Text :=
    match s.attributes.lookup a with
    | none => none
    | some true => some a.name
    | some false => some (Text.ofString "not " ++ a.name)
  let words := Attribute.all.filterMap setting ++ s.colour.toList ++
    (s.background.map fun c => Text.ofString "on " ++ c).toList ++
    (s.link.map fun l => Text.ofString "link " ++ l).toList
  if words.isEmpty then [plainWord] else words

/-- The normal form of a description; one that describes no style is put into lower case. -/
def normalize (t : Text) : Except Integer.IntegerError Text :=
  match read t with
  | .ok s => .ok (List.intercalate (Text.ofString " ") s.toWords)
  | .error .unknown => .ok t.trim.lower
  | .error (.share e) => .error e

end Style

end JsonTypings.Markup
