import JsonTypings.CodePoint.Printable

/-! Texts shown in messages: between quotes, with all that is not printable escaped, or as they are. -/
namespace JsonTypings.Text

/-- Apostrophes enclose the text, but quotation marks do so where it holds an apostrophe and no
quotation mark. -/
def quotationMark (t : Text) : CodePoint :=
  if CodePoint.ofChar '\x27' ∈ t ∧ CodePoint.ofChar '"' ∉ t then '"' else '\x27'

/-- The hexadecimal escape of a code point, in two, four or eight digits. -/
def numericEscape (c : CodePoint) : Text :=
  if c.val < 0x100 then Text.ofString "\\x" ++ Text.hex 2 c.val
  else if c.val < 0x10000 then Text.ofString "\\u" ++ Text.hex 4 c.val
  else Text.ofString "\\U" ++ Text.hex 8 c.val

/-- A code point of a text enclosed in `mark`. -/
def quotedPoint (mark c : CodePoint) : Text :=
  if c = mark ∨ c = '\\' then ['\\', c]
  else if c = '\n' then Text.ofString "\\n"
  else if c = '\r' then Text.ofString "\\r"
  else if c = '\t' then Text.ofString "\\t"
  else if c.isPrintable then [c]
  else numericEscape c

def quoted (t : Text) : Text :=
  let mark := quotationMark t
  mark :: (t.flatMap (quotedPoint mark) ++ [mark])

/-- A text in which surrogates, which no encoding has bytes for, are escaped. -/
def escapeSurrogates (t : Text) : Text :=
  t.flatMap fun c => if c.isSurrogate then numericEscape c else [c]

example : quoted (ofString "it's") = ofString "\"it's\"" := by decide +kernel
example : quoted (ofString "a\nb") = ofString "'a\\nb'" := by decide +kernel

end JsonTypings.Text
