import JsonTypings.CodePoint

/-! Paths in their normal form: no empty part, no `.`, and no slash at the end. A `..` is kept, as
its meaning depends on the directories. -/
namespace JsonTypings.Files

/-- The slashes at the front, none for a relative path, and the parts. -/
structure Path where
  root : Text
  parts : List Text
  deriving DecidableEq

namespace Path

/-- Two slashes at the front are kept; three or more count as one. -/
def rootOf (t : Text) : Text :=
  match (t.takeWhile (· = CodePoint.ofChar '/')).length with
  | 0 => []
  | 2 => Text.ofString "//"
  | _ => Text.ofString "/"

def ofText (t : Text) : Path :=
  ⟨rootOf t, (Text.splitOn '/' t).filter fun part => part ≠ [] && part ≠ Text.ofString "."⟩

/-- The relative path of no parts is written as a point. -/
def toText (p : Path) : Text :=
  if p.root = [] ∧ p.parts = [] then Text.ofString "."
  else p.root ++ List.intercalate (Text.ofString "/") p.parts

def parent (p : Path) : Path := { p with parts := p.parts.dropLast }

def isAbsolute (p : Path) : Bool := p.root ≠ []

end Path

/-- The part that leads one directory up. -/
def upward : Text := Text.ofString ".."

end JsonTypings.Files
