import JsonTypings.CodePoint.Lower
import JsonTypings.CodePoint.Space
import JsonTypings.Emoji.Names.AToC
import JsonTypings.Emoji.Names.DToG
import JsonTypings.Emoji.Names.HToM
import JsonTypings.Emoji.Names.NToR
import JsonTypings.Emoji.Names.SToZ

/-! Emoji written by their names between colons, as in `:smile:`. -/
namespace JsonTypings.Emoji

/-- Words in pairs. -/
def pairs : List Text → List (Text × Text)
  | name :: sign :: rest => (name, sign) :: pairs rest
  | _ => []

/-- All names, with their emoji. -/
def table : List (Text × Text) :=
  [namesAToC, namesDToG, namesHToM, namesNToR, namesSToZ].flatMap fun names =>
    pairs (Text.words (Text.ofString names))

/-- The emoji of a name in letters of any case. -/
def ofName? (name : Text) : Option Text := table.lookup name.lower

/-- The ways to show an emoji that a code can ask for. -/
inductive Variant where
  | text | emoji
  deriving DecidableEq

/-- The end of a code that asks for a variant. -/
def Variant.ending : Variant → Text
  | text => Text.ofString "-text:"
  | emoji => Text.ofString "-emoji:"

/-- What a terminal is told to show an emoji in a variant. -/
def Variant.selector : Variant → CodePoint
  | text => .ofNat 0xFE0E
  | emoji => .ofNat 0xFE0F

/-- A name, a variant, and the length of both with the colon behind them. -/
structure Code where
  name : Text
  variant : Option Variant
  length : Nat
  deriving DecidableEq

/-- The code that goes on behind a colon and `name`, which is given last code point first: it ends at
the next colon, and holds no space. -/
def codeFrom? (name : Text) : Text → Option Code
  | [] => none
  | c :: rest =>
    if c = ':' then some ⟨name.reverse, none, name.length + 1⟩
    else
      match [Variant.text, .emoji].find? fun v => v.ending.isPrefixOf (c :: rest) with
      | some v => some ⟨name.reverse, some v, name.length + v.ending.length⟩
      | none => if c.isSpace then none else codeFrom? (c :: name) rest

/-- The emoji of a code in its variant, if the name is known. -/
def Code.sign? (code : Code) : Option Text :=
  (ofName? code.name).map fun sign => sign ++ (code.variant.map Variant.selector).toList

/-- Puts emoji in place of their codes; a code with an unknown name is left as it is. Of a code, `skip`
code points are still to be passed over. -/
def replaceFrom (skip : Nat) : Text → Text
  | [] => []
  | c :: rest =>
    match skip with
    | skip + 1 => replaceFrom skip rest
    | 0 =>
      if c ≠ ':' then c :: replaceFrom 0 rest
      else
        match codeFrom? [] rest with
        | none => c :: replaceFrom 0 rest
        | some code =>
          code.sign?.getD (c :: rest.take code.length) ++ replaceFrom code.length rest

/-- A text with emoji in place of their codes. -/
def replace (t : Text) : Text := replaceFrom 0 t

end JsonTypings.Emoji
