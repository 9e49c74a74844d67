import JsonTypings.Literal.Token

/-! The trees of expressions. -/
namespace JsonTypings.Literal

/-- What an expression is. -/
inductive Form where
  | name | nothing | truth | falsehood | ellipsis | number | text | formatted
  | tuple | set | dict | setComprehension | dictComprehension | generator
  | member | call | starred | unary | binary | boolean | comparison | conditional
  | lambda | named | yielded | awaited
  deriving DecidableEq

/-- How messages call an expression. -/
def Form.description : Form → Text
  | name => Text.ofString "name"
  | nothing => Text.ofString "None"
  | truth => Text.ofString "True"
  | falsehood => Text.ofString "False"
  | ellipsis => Text.ofString "ellipsis"
  | number | text => Text.ofString "literal"
  | formatted => Text.ofString "f-string expression"
  | tuple => Text.ofString "tuple"
  | set => Text.ofString "set display"
  | dict => Text.ofString "dict literal"
  | setComprehension => Text.ofString "set comprehension"
  | dictComprehension => Text.ofString "dict comprehension"
  | generator => Text.ofString "generator expression"
  | member => Text.ofString "attribute"
  | call => Text.ofString "function call"
  | starred => Text.ofString "starred"
  | unary | binary | boolean => Text.ofString "expression"
  | comparison => Text.ofString "comparison"
  | conditional => Text.ofString "conditional expression"
  | lambda => Text.ofString "lambda"
  | named => Text.ofString "named expression"
  | yielded => Text.ofString "yield expression"
  | awaited => Text.ofString "await expression"

/-- A token, an expression made of parts, or parts that make no expression yet. -/
inductive Tree where
  | token (t : Token)
  | group (parts : List Tree)
  | node (form : Form) (parts : List Tree)

namespace Tree

instance : Inhabited Tree := ⟨group []⟩

/-- The parts of a tree; a token is its own part. -/
def parts : Tree → List Tree
  | token t => [token t]
  | group ts | node _ ts => ts

def part (t : Tree) (i : Nat) : Tree := t.parts.getD i (group [])

/-- Puts the parts of a list behind a first one. -/
def flatten (t : Tree) : List Tree := t.part 0 :: (t.part 1).parts

def text : Tree → Text
  | token t => t.text
  | group _ | node _ _ => []

def form? : Tree → Option Form
  | node form _ => some form
  | token _ | group _ => none

def description (t : Tree) : Text := (t.form?.map Form.description).getD []

/-- The name that a tree consists of. -/
def name? (t : Tree) : Option Text :=
  if t.form? = some .name then some (t.part 0).text else none

/-- Whether a tree starts with a given token. -/
def startsWith (t : Tree) (text : String) : Bool := (t.part 0).text = Text.ofString text

mutual

/-- The line on which a tree starts. -/
def line? : Tree → Option Nat
  | token t => some t.line
  | group ts | node _ ts => lineOf? ts

def lineOf? : List Tree → Option Nat
  | [] => none
  | t :: ts => t.line?.or (lineOf? ts)

end

end Tree

end JsonTypings.Literal
