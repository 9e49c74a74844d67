import JsonTypings.CodePoint.Space
import JsonTypings.CodePoint.Word
import JsonTypings.Literal.Datum
import JsonTypings.Quoted

/-! Parameters of tags that hold data. They are the name of a handler, with or without arguments in
parentheses, or else one literal. -/
namespace JsonTypings.Markup

/-- Why the parameters of a tag are no good. -/
structure ParameterError where
  parameters : Text
  /-- What of the parameters was read as a literal. -/
  literal : Text
  cause : Literal.LiteralError

/-- Of malformed parameters it is told which part was read. -/
def ParameterError.message (e : ParameterError) : Text :=
  let part :=
    match e.cause with
    | .malformed _ => Text.quoted e.literal ++ Text.ofString " in "
    | .meaningless _ | .unencodable _ => []
  Text.ofString "error parsing " ++ part ++ Text.quoted e.parameters ++ Text.ofString "; " ++
    e.cause.message

def isHandlerPoint (c : CodePoint) : Bool := c.isWord || c = '.'

/-- The literal in some parameters; a handler by itself has none. -/
def literalOf? (parameters : Text) : Option Text :=
  let t := parameters.trim
  match t.dropWhile isHandlerPoint with
  | [] => none
  | c :: rest =>
    if c = '(' && rest.getLast? = some (CodePoint.ofChar ')') &&
        !rest.contains (CodePoint.ofChar '\n') then
      some (c :: rest)
    else some t

/-- Checks parameters. -/
def checkParameters (parameters : Text) : Except ParameterError Unit :=
  match literalOf? parameters with
  | none => .ok ()
  | some literal => (Literal.check literal).mapError fun cause => ⟨parameters, literal, cause⟩

end JsonTypings.Markup
