import JsonTypings.Literal.Pattern

/-! The grammar of expressions, without square brackets. Beside the rules for expressions stand rules
for mistakes, which are looked for after a text has turned out to be no expression. -/
namespace JsonTypings.Literal

inductive Rule where
  | whole | expressions | expression | bareExpression | starExpression | starExpressions
  | namedExpression | assignment | yielded | lambda
  | disjunction | conjunction | inversion | comparison | bitOr | bitXor | bitAnd | shift | sum
  | term | factor | power | awaited | primary | call | atom | strings
  | group | tuple | set | dict | generator | setComprehension | dictComprehension
  | item | items | pair | entry | entries
  | clauses | clause | targets | starTarget | target | targetAtom | targetOwner
  | arguments | argumentList | positional | keywordList | keywordOrStarred | keywordOrUnpacked
  | starred
  | parameters | parameterList | slashPlain | slashDefault | starParameters | doubleStarParameter
  | plainParameter | defaultParameter | anyParameter | parameterDefault
  | expressionMistake | callMistake | namedMistake | comprehensionMistake
  | dictComprehensionMistake | groupMistake | targetMistake | entriesMistake | entryMistake
  | argumentMistake | keywordMistake | parameterMistake | starMistake | doubleStarMistake
  | defaultMistake
  deriving DecidableEq, Hashable

namespace Rule

open Pattern

/-- A whole number in decimal digits has a greatest length. -/
def judgeNumber (_ : Nat) (t : Tree) : Verdict :=
  let digits := t.text.filterMap CodePoint.digit?
  if t.text.all (fun (c : CodePoint) => c = '_' || c.digit?.isSome) && digits.any (· ≠ 0) &&
      Json.digitLimit < digits.length then
    .raise (.tooManyDigits digits.length)
  else .accept (.node .number [t])

/-- Strings side by side make one. -/
def judgeStrings (_ : Nat) (t : Tree) : Verdict :=
  match StringKind.ofLiterals (t.parts.map Tree.text) with
  | .ok .formatted => .accept (.node .formatted t.parts)
  | .ok _ => .accept (.node .text t.parts)
  | .error e => .raise (.string e)

/-- Words that may stand before what they are applied to without parentheses. -/
def isCommand (name : Text) : Bool := name = Text.ofString "print" || name = Text.ofString "exec"

/-- Two expressions side by side lack a comma, if they stand in brackets. -/
def judgeNeighbours (level : Nat) (t : Tree) : Verdict :=
  if (t.part 1).name?.any isCommand || level = 0 then .refuse else .raise .missingComma

def judgeCommand (_ : Nat) (t : Tree) : Verdict :=
  if isCommand (t.part 0).text then .raise (.missingParentheses (t.part 0).text) else .refuse

mutual

/-- The kind of expression, in the targets of a loop, that nothing can be assigned to. -/
def badTarget? : Tree → Option Form
  | .token _ | .group _ => none
  | .node form ts =>
    match form with
    | .tuple | .starred => firstBadTarget? ts
    | .comparison =>
      if (ts.getD 1 (.group [])).startsWith "in" then headBadTarget? ts else none
    | .name | .member => none
    | form => some form

def firstBadTarget? : List Tree → Option Form
  | [] => none
  | t :: ts => (badTarget? t).or (firstBadTarget? ts)

def headBadTarget? : List Tree → Option Form
  | [] => none
  | t :: _ => badTarget? t

end

def judgeTarget (_ : Nat) (t : Tree) : Verdict :=
  match badTarget? (t.part 2) with
  | some form => .raise (.target form.description)
  | none => .refuse

/-- Arguments by place, and those behind them, of which a few may be by place as well. -/
def argumentCount (arguments : Tree) : Nat :=
  (arguments.part 0).parts.length +
    ((arguments.part 1).parts.filter fun t => t.form? = some .starred).length

/-- A generator among other arguments needs parentheses. -/
def judgeGenerator (_ : Nat) (t : Tree) : Verdict :=
  if argumentCount (t.part 0) ≤ 1 then .refuse else .raise .bareGenerator

def judgeOrder (_ : Nat) (t : Tree) : Verdict :=
  if ((t.part 0).part 1).parts.any fun k => k.startsWith "**" then .raise .positionalAfterKeywords
  else .raise .positionalAfterKeyword

/-- What an expression becomes by calls and by access to its members. -/
def ofSteps (t : Tree) : Tree :=
  let steps := (t.part 1).parts
  match steps.getLast? with
  | none => t.part 0
  | some last => .node (last.form?.getD .call) (t.part 0 :: steps)

/-- Expressions between commas. -/
def tupleOf (t : Tree) : Tree := .node .tuple t.flatten

/-- The rules for what stands between commas outside of parentheses. -/
def commaSeparated (r : Rule) : Pattern Rule :=
  .alt [map tupleOf (.seq [.rule r, several (pick 1 [sign ",", .rule r]), maybe (sign ",")]),
    map (fun t => .node .tuple [t.part 0]) (.seq [.rule r, sign ","]), .rule r]

def name : Pattern Rule := kind .name

/-- Names that have a meaning at some places only. -/
def isSoftKeyword (t : Token) : Bool :=
  t.kind = .name && ["_", "case", "match"].any fun s => t.text = Text.ofString s

/-- A parameter with a comma behind it, or with the colon that ends the parameters. -/
def ended (ps : List (Pattern Rule)) : Pattern Rule :=
  .alt [.seq (ps ++ [sign ","]), .seq (ps ++ [.ahead (sign ":")])]

/-- What no further assignment follows. -/
def notAssigned : Pattern Rule := .absent (signs ["=", ":="])

def comprehensionIf : Pattern Rule := .many (.seq [word "if", .rule disjunction])

/-- What a rule stands for. -/
def pattern : Rule → Pattern Rule
  | whole => pick 0 [.rule expressions, .many (kind .lineEnd), kind .ending]
  | expressions => commaSeparated expression
  | expression =>
    .alt [.explained (.rule expressionMistake), .explained (.rule callMistake),
      node .conditional [.rule disjunction, word "if", .rule disjunction, word "else", .rule expression],
      .rule disjunction, .rule lambda]
  | bareExpression =>
    .plain (.alt [
      node .conditional [.rule disjunction, word "if", .rule disjunction, word "else", .rule expression],
      .rule disjunction, .rule lambda])
  | starExpression => .alt [node .starred [sign "*", .rule bitOr], .rule expression]
  | starExpressions => commaSeparated starExpression
  | namedExpression =>
    .alt [.rule assignment, .explained (.rule namedMistake),
      pick 0 [.rule expression, .absent (sign ":=")]]
  | assignment => node .named [name, sign ":=", .commit, .rule expression]
  | yielded =>
    .alt [node .yielded [word "yield", word "from", .rule expression],
      node .yielded [word "yield", maybe (.rule starExpressions)]]
  | lambda =>
    node .lambda [word "lambda", maybe (.rule parameters), sign ":", .rule expression]
  | disjunction => chain .boolean (.rule conjunction) (pick 1 [word "or", .rule conjunction])
  | conjunction => chain .boolean (.rule inversion) (pick 1 [word "and", .rule inversion])
  | inversion => .alt [node .unary [word "not", .rule inversion], .rule comparison]
  | comparison =>
    chain .comparison (.rule bitOr) (.alt [.seq [signs ["==", "!=", "<=", "<", ">=", ">"], .rule bitOr],
      .seq [word "not", word "in", .rule bitOr], .seq [word "in", .rule bitOr],
      .seq [word "is", word "not", .rule bitOr], .seq [word "is", .rule bitOr]])
  | bitOr => chain .binary (.rule bitXor) (.seq [sign "|", .rule bitXor])
  | bitXor => chain .binary (.rule bitAnd) (.seq [sign "^", .rule bitAnd])
  | bitAnd => chain .binary (.rule shift) (.seq [sign "&", .rule shift])
  | shift => chain .binary (.rule sum) (.seq [signs ["<<", ">>"], .rule sum])
  | sum => chain .binary (.rule term) (.seq [signs ["+", "-"], .rule term])
  | term => chain .binary (.rule factor) (.seq [signs ["*", "/", "//", "%", "@"], .rule factor])
  | factor => .alt [node .unary [signs ["+", "-", "~"], .rule factor], .rule power]
  | power => .alt [node .binary [.rule awaited, sign "**", .rule factor], .rule awaited]
  | awaited => .alt [node .awaited [word "await", .rule primary], .rule primary]
  | primary => map ofSteps (.seq [.rule atom, .many (.rule call)])
  | call =>
    .alt [node .member [sign ".", name], node .call [.rule generator],
      node .call [sign "(", maybe (.rule arguments), sign ")"]]
  | atom =>
    .alt [node .name [name], node .truth [word "True"], node .falsehood [word "False"],
      node .nothing [word "None"], pick 1 [.ahead (kind .string), .rule strings],
      .act judgeNumber (kind .number),
      pick 1 [.ahead (sign "("), .alt [.rule tuple, .rule group, .rule generator]],
      pick 1 [.ahead (sign "\x7b"),
        .alt [.rule dict, .rule set, .rule dictComprehension, .rule setComprehension]],
      node .ellipsis [sign "..."]]
  | strings => .act judgeStrings (several (kind .string))
  | group =>
    .alt [pick 1 [sign "(", .alt [.rule yielded, .rule namedExpression], sign ")"],
      .explained (.rule groupMistake)]
  | tuple =>
    map (fun t => .node .tuple t.parts) (pick 1 [sign "(",
      maybe (map (fun t => .group (t.part 0 :: (t.part 2).parts))
        (.seq [.rule item, sign ",", maybe (.rule items)])), sign ")"])
  | set => map (fun t => .node .set t.parts) (pick 1 [sign "\x7b", .rule items, sign "\x7d"])
  | dict =>
    .alt [map (fun t => .node .dict t.parts)
        (pick 1 [sign "\x7b", maybe (.rule entries), sign "\x7d"]),
      .seq [sign "\x7b", .rule entriesMistake, sign "\x7d"]]
  | generator =>
    .alt [node .generator [sign "(",
        .alt [.rule assignment, .seq [.rule expression, .absent (sign ":=")]], .rule clauses, sign ")"],
      .explained (.rule comprehensionMistake)]
  | setComprehension =>
    .alt [node .setComprehension [sign "\x7b", .rule namedExpression, .rule clauses, sign "\x7d"],
      .explained (.rule comprehensionMistake)]
  | dictComprehension =>
    .alt [node .dictComprehension [sign "\x7b", .rule pair, .rule clauses, sign "\x7d"],
      .explained (.rule dictComprehensionMistake)]
  | item => .alt [node .starred [sign "*", .rule bitOr], .rule namedExpression]
  | items => pick 0 [list (.rule item), maybe (sign ",")]
  | pair => .seq [.rule expression, sign ":", .rule expression]
  | entry => .alt [.seq [sign "**", .rule bitOr], .rule pair]
  | entries => pick 0 [list (.rule entry), maybe (sign ",")]
  | clauses => several (.rule clause)
  | clause =>
    .alt [.seq [word "async", word "for", .rule targets, word "in", .commit, .rule disjunction,
        comprehensionIf],
      .seq [word "for", .rule targets, word "in", .commit, .rule disjunction, comprehensionIf],
      .explained (.rule targetMistake)]
  | targets =>
    .alt [.seq [.rule starTarget, .absent (sign ",")],
      .seq [.rule starTarget, .many (.seq [sign ",", .rule starTarget]), maybe (sign ",")]]
  | starTarget => .alt [.seq [sign "*", .absent (sign "*"), .rule starTarget], .rule target]
  | target =>
    .alt [.seq [.rule targetOwner, sign ".", name, .absent (signs ["(", ".", "["])], .rule targetAtom]
  | targetAtom =>
    .alt [name, .seq [sign "(", .rule target, sign ")"],
      .seq [sign "(", maybe (.alt [
          .seq [.rule starTarget, several (.seq [sign ",", .rule starTarget]), maybe (sign ",")],
          .seq [.rule starTarget, sign ","]]),
        sign ")"]]
  | targetOwner =>
    let goesOn : Pattern Rule := .ahead (signs ["(", "[", "."])
    .seq [.rule atom, goesOn, .many (.seq [.rule call, goesOn])]
  | arguments =>
    .alt [pick 0 [.rule argumentList, maybe (sign ","), .ahead (sign ")")],
      .explained (.rule argumentMistake)]
  | argumentList =>
    .alt [.seq [list (.rule positional), maybe (pick 1 [sign ",", .rule keywordList])],
      map (fun t => .group [.group [], t]) (.rule keywordList)]
  | positional =>
    .alt [.rule starred,
      pick 0 [.alt [.rule assignment, pick 0 [.rule expression, .absent (sign ":=")]],
        .absent (sign "=")]]
  | keywordList =>
    .alt [map (fun t => .group ((t.part 0).parts ++ (t.part 2).parts))
        (.seq [list (.rule keywordOrStarred), sign ",", list (.rule keywordOrUnpacked)]),
      list (.rule keywordOrStarred), list (.rule keywordOrUnpacked)]
  | keywordOrStarred =>
    .alt [.explained (.rule keywordMistake), .seq [name, sign "=", .rule expression], .rule starred]
  | keywordOrUnpacked =>
    .alt [.explained (.rule keywordMistake), .seq [name, sign "=", .rule expression],
      .seq [sign "**", .rule expression]]
  | starred => node .starred [sign "*", .rule expression]
  | parameters => .alt [.explained (.rule parameterMistake), .rule parameterList]
  | parameterList =>
    let defaults : Pattern Rule := .many (.rule defaultParameter)
    let stars := maybe (.rule starParameters)
    .alt [.seq [.rule slashPlain, .many (.rule plainParameter), defaults, stars],
      .seq [.rule slashDefault, defaults, stars],
      .seq [several (.rule plainParameter), defaults, stars],
      .seq [several (.rule defaultParameter), stars], .rule starParameters]
  | slashPlain => ended [several (.rule plainParameter), sign "/"]
  | slashDefault =>
    ended [.many (.rule plainParameter), several (.rule defaultParameter), sign "/"]
  | starParameters =>
    let keywords := maybe (.rule doubleStarParameter)
    .alt [.explained (.rule starMistake),
      .seq [sign "*", .rule plainParameter, .many (.rule anyParameter), keywords],
      .seq [sign "*", sign ",", several (.rule anyParameter), keywords], .rule doubleStarParameter]
  | doubleStarParameter =>
    .alt [.explained (.rule doubleStarMistake), .seq [sign "**", .rule plainParameter]]
  | plainParameter => ended [name]
  | defaultParameter => ended [name, .rule parameterDefault]
  | anyParameter => ended [name, maybe (.rule parameterDefault)]
  | parameterDefault => .alt [.seq [sign "=", .rule expression], .explained (.rule defaultMistake)]
  | expressionMistake =>
    .alt [.act judgeNeighbours (.seq [
        .absent (.alt [.seq [name, kind .string], .token isSoftKeyword]), .rule disjunction,
        .rule bareExpression]),
      raise .missingElse [.rule disjunction, word "if", .rule disjunction,
        .absent (.alt [word "else", sign ":"])]]
  | callMistake => .act judgeCommand (.seq [name, .absent (sign "("), .rule starExpressions])
  | namedMistake =>
    .alt [raiseFirst .namedTarget [.rule expression, sign ":=", .rule expression],
      raise .equalsSign [name, sign "=", .rule bitOr, notAssigned],
      raiseFirst .equalsSignAfter [pick 1 [
          .absent (.alt [.rule tuple, .rule generator, words ["True", "None", "False"]]), .rule bitOr],
        sign "=", .rule bitOr, notAssigned]]
  | comprehensionMistake =>
    .alt [raise .unpackingInComprehension [signs ["(", "\x7b"], .rule starred, .rule clauses],
      raise .bareComprehensionTarget [sign "\x7b", .rule item, sign ",", .rule items, .rule clauses],
      raise .bareComprehensionTarget [sign "\x7b", .rule item, sign ",", .rule clauses]]
  | dictComprehensionMistake =>
    raise .unpackingInDictComprehension [sign "\x7b", sign "**", .rule bitOr, .rule clauses,
      sign "\x7d"]
  | groupMistake =>
    .alt [raise .starredGroup [sign "(", .rule starred, sign ")"],
      raise .doubleStarredGroup [sign "(", sign "**", .rule expression, sign ")"]]
  | targetMistake =>
    .act judgeTarget (.seq [maybe (word "async"), word "for", .rule starExpressions])
  | entriesMistake =>
    .alt [.seq [list (.rule entry), sign ",", .rule entryMistake],
      raise .starredValue [.rule expression, sign ":", sign "*", .rule bitOr],
      raise .missingValue [.rule expression, sign ":", .ahead (signs ["\x7d", ","])]]
  | entryMistake =>
    .alt [raise .missingColon [.rule expression, .absent (sign ":")],
      raise .starredValue [.rule expression, sign ":", sign "*", .rule bitOr],
      raise .missingValue [.rule expression, sign ":", .ahead (signs ["\x7d", ","])]]
  | argumentMistake =>
    .alt [raise .unpackingAfterKeywords [.rule argumentList, sign ",", sign "*"],
      raise .bareGenerator [.rule expression, .rule clauses, sign ",",
        maybe (.alt [.rule argumentList, .seq [.rule expression, .rule clauses]])],
      raise .equalsSign [name, sign "=", .rule expression, .rule clauses],
      .act judgeGenerator (.seq [.rule argumentList, .rule clauses]),
      raise .bareGenerator [.rule argumentList, sign ",", .rule expression, .rule clauses],
      .act judgeOrder (.seq [.rule argumentList, sign ",", .rule argumentList])]
  | keywordMistake =>
    .alt [raiseFirst .target [.alt [node .truth [word "True"], node .falsehood [word "False"],
        node .nothing [word "None"]], sign "="],
      raise .equalsSign [name, sign "=", .rule expression, .rule clauses],
      raise .equalsSignInArgument [.absent (.seq [name, sign "="]), .rule expression, sign "="]]
  | parameterMistake =>
    .alt [raise .slashFirst [sign "/", sign ","],
      raise .slashTwice [.alt [.rule slashPlain, .rule slashDefault], .many (.rule anyParameter),
        sign "/"],
      raise .parameterAfterDefault [maybe (.rule slashPlain), .many (.rule plainParameter),
        .alt [.rule slashDefault, several (.rule defaultParameter)], .rule plainParameter],
      raise .parenthesizedParameters [.many (.rule plainParameter), sign "(", list name,
        maybe (sign ","), sign ")"],
      raise .slashAfterStar [maybe (.alt [.rule slashPlain, .rule slashDefault]),
        .many (.rule anyParameter), sign "*", .alt [sign ",", .rule plainParameter],
        .many (.rule anyParameter), sign "/"],
      raise .slashBeforeStar [several (.rule anyParameter), sign "/", sign "*"]]
  | starMistake =>
    let first : Pattern Rule := .alt [.rule plainParameter, sign ","]
    .alt [raise .starAlone [sign "*", .alt [sign ":", .seq [sign ",", signs [":", "**"]]]],
      raise .starDefault [sign "*", name, sign "="],
      raise .starTwice [sign "*", first, .many (.rule anyParameter), sign "*", first]]
  | doubleStarMistake =>
    .alt [raise .doubleStarDefault [sign "**", name, sign "="],
      raise .parameterAfterDoubleStar [sign "**", name, sign ",", name],
      raise .parameterAfterDoubleStar [sign "**", name, sign ",", signs ["*", "**", "/"]]]
  | defaultMistake => raise .missingDefault [sign "=", .ahead (signs [")", ","])]

/-- Rules that are come back to often. -/
def isKept : Rule → Bool
  | expression | starExpression | disjunction | conjunction | inversion | factor | awaited
  | arguments | strings | namedMistake | starTarget | target
  | bitOr | bitXor | bitAnd | shift | sum | term | primary | targetOwner => true
  | _ => false

end Rule

def grammar : Grammar Rule := ⟨Rule.pattern, Rule.isKept⟩

/-- The fault that is told: one that lies in the cutting into tokens goes before `fault`, which was
found after `reach` tokens had been looked at, and so does an open bracket of an earlier line. -/
def Scan.settle (scan : Scan) (reach : Nat) (fault : Fault) : Fault :=
  match scan.halt with
  | none => fault
  | some e =>
    if e.isLoud then .lexical e
    else
      let line := ((scan.tokens[reach - 1]?).map Token.line).getD 0
      match scan.brackets with
      | [] => fault
      | b :: _ => if b.line < line then .lexical (.neverClosed b.mark) else fault

/-- The fault that is told where a certain one was found. It stands if the text was read to its end. -/
def Scan.settleCertain (scan : Scan) (reach : Nat) (fault : Fault) : Fault :=
  match fault with
  | .lexical e => .lexical e
  | fault => if scan.isEndSeen && reach = scan.tokens.size then fault else scan.settle reach fault

/-- How deep rules are nested at most, for each token. -/
def nesting : Nat := 400

/-- The expression that a text spells. -/
def parse (t : Text) : Except Fault Tree :=
  let scan := Scan.ofText t
  let fuel := nesting * (scan.tokens.size + 2)
  match Pattern.run grammar scan fuel (.rule .whole) ⟨0, 0, false, ∅⟩ with
  | (.matched t, _) => .ok t
  | (.raised f, first) => .error (scan.settleCertain first.reach f)
  | (.failed _, first) =>
    match Pattern.run grammar scan fuel (.rule .whole) ⟨0, first.reach, true, ∅⟩ with
    | (.raised f, second) => .error (scan.settleCertain second.reach f)
    | (_, second) =>
      match (scan.tokens[first.reach - 1]?).map Token.kind with
      | some .indent => .error .indented
      | some .dedent => .error .dedented
      | _ => .error (scan.settle second.reach .invalid)

end JsonTypings.Literal
