import JsonTypings.CodePoint

/-! What a chart shows, apart from how it is painted. -/
namespace JsonTypings.Chart

inductive Scale where
  | linear | log
  deriving DecidableEq

structure Bar where
  left : Float
  bottom : Float
  width : Float
  height : Float
  colour : Text

/-- A line through points, each with a marker. -/
structure Curve where
  xs : List Float
  ys : List Float
  marker : Text
  colour : Text

structure Label where
  x : Float
  y : Float
  text : Text

/-- The marks on an axis: those of the numbers, names in order, or names at places. -/
inductive Ticks where
  | numbers
  | names (ns : List Text)
  | placed (ns : List (Float × Text))

structure Axes where
  title : Text
  xLabel : Text
  yLabel : Text
  xScale : Scale
  bars : List Bar
  curves : List Curve
  labels : List Label
  ticks : Ticks

/-- Panels side by side under a title, with the size of the whole in inches. -/
structure Figure where
  title : Text
  width : Float
  height : Float
  panels : List Axes

/-- Dots per inch of a saved figure. -/
def resolution : Nat := 150

end JsonTypings.Chart
