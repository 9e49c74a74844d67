import JsonTypings.Json.Fault
import JsonTypings.Literal.Quote

/-! What can be wrong with an expression, and how it is said. -/
namespace JsonTypings.Literal

/-- Why a text is no expression. What stands in the way is told by its description. -/
inductive Fault where
  | lexical (e : LexicalError)
  | string (e : StringError)
  | tooManyDigits (digits : Nat)
  | invalid
  | indented
  | dedented
  | missingComma
  | missingElse
  | missingParentheses (name : Text)
  | missingColon
  | missingValue
  | missingDefault
  | target (description : Text)
  | namedTarget (description : Text)
  | equalsSign
  | equalsSignAfter (description : Text)
  | equalsSignInArgument
  | unpackingAfterKeywords
  | positionalAfterKeyword
  | positionalAfterKeywords
  | bareGenerator
  | bareComprehensionTarget
  | unpackingInComprehension
  | unpackingInDictComprehension
  | starredGroup
  | doubleStarredGroup
  | starredValue
  | parameterAfterDefault
  | parenthesizedParameters
  | slashFirst
  | slashTwice
  | slashAfterStar
  | slashBeforeStar
  | starAlone
  | starDefault
  | starTwice
  | doubleStarDefault
  | parameterAfterDoubleStar
  deriving DecidableEq

namespace Fault

/-- What is said of an equals sign that is no comparison. -/
def equalsSignAdvice : Text :=
  Text.ofString "invalid syntax. Maybe you meant '==' or ':=' instead of '='?"

def message : Fault → Text
  | lexical e => e.message
  | string e => e.message
  | tooManyDigits digits =>
    Json.digitLimitMessage digits ++
      Text.ofString " - Consider hexadecimal for huge integer literals to avoid decimal conversion limits."
  | invalid => Text.ofString "invalid syntax"
  | indented => Text.ofString "unexpected indent"
  | dedented => Text.ofString "unexpected unindent"
  | missingComma => Text.ofString "invalid syntax. Perhaps you forgot a comma?"
  | missingElse => Text.ofString "expected 'else' after 'if' expression"
  | missingParentheses name =>
    Text.ofString "Missing parentheses in call to '" ++ name ++ Text.ofString "'. Did you mean " ++
      name ++ Text.ofString "(...)?"
  | missingColon => Text.ofString "':' expected after dictionary key"
  | missingValue => Text.ofString "expression expected after dictionary key and ':'"
  | missingDefault => Text.ofString "expected default value expression"
  | target description => Text.ofString "cannot assign to " ++ description
  | namedTarget description => Text.ofString "cannot use assignment expressions with " ++ description
  | equalsSign => equalsSignAdvice
  | equalsSignAfter description =>
    Text.ofString "cannot assign to " ++ description ++
      Text.ofString " here. Maybe you meant '==' instead of '='?"
  | equalsSignInArgument =>
    Text.ofString "expression cannot contain assignment, perhaps you meant \"==\"?"
  | unpackingAfterKeywords =>
    Text.ofString "iterable argument unpacking follows keyword argument unpacking"
  | positionalAfterKeyword => Text.ofString "positional argument follows keyword argument"
  | positionalAfterKeywords => Text.ofString "positional argument follows keyword argument unpacking"
  | bareGenerator => Text.ofString "Generator expression must be parenthesized"
  | bareComprehensionTarget =>
    Text.ofString "did you forget parentheses around the comprehension target?"
  | unpackingInComprehension => Text.ofString "iterable unpacking cannot be used in comprehension"
  | unpackingInDictComprehension =>
    Text.ofString "dict unpacking cannot be used in dict comprehension"
  | starredGroup => Text.ofString "cannot use starred expression here"
  | doubleStarredGroup => Text.ofString "cannot use double starred expression here"
  | starredValue => Text.ofString "cannot use a starred expression in a dictionary value"
  | parameterAfterDefault => Text.ofString "non-default argument follows default argument"
  | parenthesizedParameters => Text.ofString "Lambda expression parameters cannot be parenthesized"
  | slashFirst => Text.ofString "at least one argument must precede /"
  | slashTwice => Text.ofString "/ may appear only once"
  | slashAfterStar => Text.ofString "/ must be ahead of *"
  | slashBeforeStar => Text.ofString "expected comma between / and *"
  | starAlone => Text.ofString "named arguments must follow bare *"
  | starDefault => Text.ofString "var-positional argument cannot have default value"
  | starTwice => Text.ofString "* argument may appear only once"
  | doubleStarDefault => Text.ofString "var-keyword argument cannot have default value"
  | parameterAfterDoubleStar => Text.ofString "arguments cannot follow var-keyword argument"

end Fault

end JsonTypings.Literal
