import JsonTypings.CodePoint.Cells
import JsonTypings.CodePoint.Space

/-! Text laid out on a terminal of some width, in cells: its lines are broken where they get too long, and
tabs lead to tab stops. -/
namespace JsonTypings.Markup.Layout

/-- The distance between tab stops. -/
def tabSize : Nat := 8

/-- The stretches of a line, of which the first begins in some column, with blanks up to the next tab
stop behind each but the last. -/
def fillTabs (column : Nat) : List Text → Text
  | [] => []
  | [last] => last
  | part :: rest =>
    let stop := ((column + part.cells) / tabSize + 1) * tabSize
    part ++ List.replicate (stop - column - part.cells) (CodePoint.ofChar ' ') ++ fillTabs stop rest

/-- A line with blanks instead of tabs. -/
def expandTabs (line : Text) : Text := fillTabs 0 (Text.splitOn '\t' line)

/-- The lengths of parts that each fit into a line, of which the first holds `count` code points in
`cells` cells so far. -/
def foldedLengths (width count cells : Nat) : Text → List Nat
  | [] => [count]
  | c :: rest =>
    if width < cells + c.cells then count :: foldedLengths width 1 c.cells rest
    else foldedLengths width (count + 1) (cells + c.cells) rest

/-- The words of a line with the spaces behind them; those in front belong to the first word. What
came before is `word`, last code point first, which holds more than spaces if `isBegun` says so. -/
def spacedWords (word : Text) (isBegun : Bool) : Text → List Text
  | [] => if isBegun then [word.reverse] else []
  | c :: rest =>
    if isBegun && !c.isSpace && word.head?.any CodePoint.isSpace then
      word.reverse :: spacedWords [c] true rest
    else spacedWords (c :: word) (isBegun || !c.isSpace) rest

/-- The breaks before the parts of a folded word that starts at some place; no line breaks at its
start. -/
def foldBreaks (start : Nat) : List Nat → List Nat
  | [] => []
  | length :: rest => (if start = 0 then [] else [start]) ++ foldBreaks (start + length) rest

/-- Where a line breaks: its words go on at `start`, in column `column`. A word that fits nowhere is
folded. -/
def breaks (width start column : Nat) : List Text → List Nat
  | [] => []
  | word :: rest =>
    let next := start + word.length
    let needed := word.trimRight.cells
    if column + needed ≤ width then breaks width next (column + word.cells) rest
    else if width < needed then
      let lengths := foldedLengths width 0 0 word
      let last : Text := word.drop (word.length - lengths.getLast?.getD 0)
      foldBreaks start lengths ++ breaks width next last.cells rest
    else if column = 0 || start = 0 then breaks width next column rest
    else start :: breaks width next word.cells rest

/-- The parts of a text between some places, the first of which is `start`. -/
def divide (start : Nat) : List Nat → Text → List Text
  | [], t => [t]
  | place :: rest, t => t.take (place - start) :: divide place rest (t.drop (place - start))

/-- As much of a line as fits, where some cells are taken up already. -/
def cropCells (width cells : Nat) : Text → Text
  | [] => []
  | c :: rest =>
    if cells + c.cells ≤ width then c :: cropCells width (cells + c.cells) rest
    else List.replicate (width - cells) (CodePoint.ofChar ' ')

/-- A line without spaces at its end that it has no room for. -/
def crop (width : Nat) (line : Text) : Text :=
  let line : Text := line.take (max width line.trimRight.length)
  if line.cells ≤ width then line else cropCells width 0 line

/-- The lines that a line is shown in. -/
def wrap (width : Nat) (line : Text) : List Text :=
  let line := expandTabs line
  (divide 0 (breaks width 0 0 (spacedWords [] false line)) line).map (crop width)

/-- A text as a terminal shows it. -/
def arrange (width : Nat) (t : Text) : Text :=
  List.intercalate [CodePoint.ofChar '\n'] ((Text.splitOn '\n' t).flatMap (wrap width))

end JsonTypings.Markup.Layout
