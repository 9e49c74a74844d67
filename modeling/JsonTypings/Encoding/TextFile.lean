import JsonTypings.Encoding.Utf8

/-! Text files: UTF-8 with line ends of any kind. A carriage return, alone or before a line feed,
counts as a line feed. -/
namespace JsonTypings.Encoding

/-- Turns line ends into line feeds in what follows `done`, which is kept last first. A line feed
directly after a carriage return is dropped, as the return was already written as a line feed. -/
def newlinesFrom (afterReturn : Bool) (done : Text) : Text → Text
  | [] => done.reverse
  | c :: rest =>
    if c = '\r' then newlinesFrom true (CodePoint.ofChar '\n' :: done) rest
    else if c = '\n' ∧ afterReturn then newlinesFrom false done rest
    else newlinesFrom false (c :: done) rest

/-- The text with all line ends as line feeds. -/
def universalNewlines (t : Text) : Text := newlinesFrom false [] t

/-- The text of a file. -/
def decodeTextFile (bytes : Bytes) : Except DecodeError Text :=
  (Utf8.decode bytes).map universalNewlines

example :
    universalNewlines (Text.ofString "a\r\nb\rc\n\r\n") = Text.ofString "a\nb\nc\n\n" := by decide

end JsonTypings.Encoding
