import JsonTypings.CodePoint

/-! Spaces, and the words that they part. -/
namespace JsonTypings

namespace CodePoint

/-- Blanks around a number: tab to carriage return, and the spaces and line ends of Unicode; the
information separators U+001C to U+001F are none. -/
def isBlank (c : CodePoint) : Bool :=
  c.isWithin [(9, 13), (32, 32), (133, 133), (160, 160), (5760, 5760), (8192, 8202), (8232, 8233),
    (8239, 8239), (8287, 8287), (12288, 12288)]

/-- What parts words: blanks and information separators. -/
def isSpace (c : CodePoint) : Bool := c.isBlank || c.isWithin [(0x1C, 0x1F)]

end CodePoint

namespace Text

/-- A text without the spaces at its end. -/
def trimRight (t : Text) : Text := (t.reverse.dropWhile CodePoint.isSpace).reverse

/-- A text without the spaces around it. -/
def trim (t : Text) : Text := trimRight (t.dropWhile CodePoint.isSpace)

/-- The words of a text, of which the first has begun with `word`, last code point first. -/
def wordsFrom (word : Text) : Text → List Text
  | [] => if word = [] then [] else [word.reverse]
  | c :: rest =>
    if c.isSpace then
      if word = [] then wordsFrom [] rest else word.reverse :: wordsFrom [] rest
    else wordsFrom (c :: word) rest

/-- The longest stretches without spaces. -/
def words (t : Text) : List Text := wordsFrom [] t

example : words (ofString " on  red\n") = [ofString "on", ofString "red"] := by decide +kernel

end Text

end JsonTypings
