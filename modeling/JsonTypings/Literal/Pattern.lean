import JsonTypings.Literal.Fault
import JsonTypings.Literal.Tree
import Std.Data.HashMap

/-! Patterns of tokens with rules that refer to each other. A choice takes the first alternative that
matches, and what a rule has found at a place is kept. -/
namespace JsonTypings.Literal

/-- What is made of a match. -/
inductive Verdict where
  | accept (t : Tree)
  /-- The match does not count, and no other alternative is looked at. -/
  | refuse
  | raise (f : Fault)

/-- Patterns over rules. -/
inductive Pattern (Rule : Type) where
  | token (test : Token → Bool)
  | rule (r : Rule)
  | seq (ps : List (Pattern Rule))
  | alt (ps : List (Pattern Rule))
  | many (p : Pattern Rule)
  | ahead (p : Pattern Rule)
  | absent (p : Pattern Rule)
  /-- Within a sequence: if it fails from here on, no other alternative is looked at. -/
  | commit
  /-- Matches only while reasons for a failure are looked for. -/
  | explained (p : Pattern Rule)
  /-- Looks for no reasons inside. -/
  | plain (p : Pattern Rule)
  /-- Judges a match, given the number of brackets open behind it. -/
  | act (f : Nat → Tree → Verdict) (p : Pattern Rule)

/-- A pattern for each rule, and whether what it has found is kept. -/
structure Grammar (Rule : Type) where
  pattern : Rule → Pattern Rule
  isKept : Rule → Bool

/-- How the search for a pattern ends. A final failure excludes other alternatives. -/
inductive Outcome where
  | matched (t : Tree)
  | failed (isFinal : Bool)
  | raised (f : Fault)

/-- The place of the next token, how many tokens have been looked at, and what is kept: trees with the
places behind them. -/
structure Progress (Rule : Type) [BEq Rule] [Hashable Rule] where
  place : Nat
  reach : Nat
  isExplaining : Bool
  kept : Std.HashMap (Rule × Nat) (Option (Tree × Nat))

namespace Pattern

variable {Rule : Type} [BEq Rule] [Hashable Rule]

/-- A search for a pattern. -/
abbrev Search (Rule : Type) [BEq Rule] [Hashable Rule] :=
  Pattern Rule → Progress Rule → Outcome × Progress Rule

def runSeq (search : Search Rule) (isCommitted : Bool) (done : List Tree) :
    List (Pattern Rule) → Progress Rule → Outcome × Progress Rule
  | [], s => (.matched (.group done.reverse), s)
  | .commit :: ps, s => runSeq search true done ps s
  | p :: ps, s =>
    match search p s with
    | (.matched t, s) => runSeq search isCommitted (t :: done) ps s
    | (.failed isFinal, s) => (.failed (isFinal || isCommitted), s)
    | (.raised f, s) => (.raised f, s)

def runAlt (search : Search Rule) (start : Nat) :
    List (Pattern Rule) → Progress Rule → Outcome × Progress Rule
  | [], s => (.failed false, s)
  | p :: ps, s =>
    match search p { s with place := start } with
    | (.failed false, s) => runAlt search start ps s
    | (.failed true, s) => (.failed false, s)
    | result => result

/-- At most `limit` matches in a row. -/
def runMany (search : Search Rule) (p : Pattern Rule) (limit : Nat) (done : List Tree)
    (s : Progress Rule) : Outcome × Progress Rule :=
  match limit with
  | 0 => (.matched (.group done.reverse), s)
  | limit + 1 =>
    match search p s with
    | (.matched t, s) => runMany search p limit (t :: done) s
    | (.failed _, later) => (.matched (.group done.reverse), { later with place := s.place })
    | (.raised f, s) => (.raised f, s)

/-- The next token, which counts as looked at. -/
def next (scan : Scan) (s : Progress Rule) : Except Outcome (Token × Progress Rule) :=
  match scan.tokens[s.place]? with
  | some t => .ok (t, { s with reach := max s.reach (s.place + 1) })
  | none =>
    match scan.halt with
    | some e => .error (.raised (.lexical e))
    | none => .error (.failed false)

/-- Looks for a pattern in the tokens, with rules nested no deeper than `fuel` allows. -/
def run (g : Grammar Rule) (scan : Scan) (fuel : Nat) (p : Pattern Rule) (s : Progress Rule) :
    Outcome × Progress Rule :=
  match fuel with
  | 0 => (.failed false, s)
  | fuel + 1 =>
    let search := run g scan fuel
    match p with
    | .token test =>
      match next scan s with
      | .error e => (e, s)
      | .ok (t, s) =>
        if test t then (.matched (.token t), { s with place := s.place + 1 }) else (.failed false, s)
    | .rule r =>
      match next scan s with
      | .error e => (e, s)
      | .ok (_, s) =>
        let start := s.place
        match if g.isKept r then s.kept[(r, start)]? else none with
        | some (some (t, place)) => (.matched t, { s with place := place })
        | some none => (.failed false, s)
        | none =>
          match search (g.pattern r) s with
          | (.raised f, s) => (.raised f, s)
          | (.matched t, s) =>
            (.matched t,
              if g.isKept r then { s with kept := s.kept.insert (r, start) (some (t, s.place)) } else s)
          | (.failed _, s) =>
            (.failed false, if g.isKept r then { s with kept := s.kept.insert (r, start) none } else s)
    | .seq ps => runSeq search false [] ps s
    | .alt ps => runAlt search s.place ps s
    | .many p => runMany search p (scan.tokens.size + 1) [] s
    | .ahead p =>
      match search p s with
      | (.matched _, later) => (.matched (.group []), { later with place := s.place })
      | (.failed _, later) => (.failed false, later)
      | result => result
    | .absent p =>
      match search p s with
      | (.matched _, later) => (.failed false, later)
      | (.failed _, later) => (.matched (.group []), { later with place := s.place })
      | result => result
    | .commit => (.matched (.group []), s)
    | .explained p => if s.isExplaining then search p s else (.failed false, s)
    | .plain p =>
      let (outcome, later) := search p { s with isExplaining := false }
      (outcome, { later with isExplaining := s.isExplaining })
    | .act f p =>
      match search p s with
      | (.matched t, s) =>
        let level := ((scan.tokens[s.place - 1]?).map Token.level).getD 0
        match f level t with
        | .accept t => (.matched t, s)
        | .refuse => (.failed true, s)
        | .raise f => (.raised f, s)
      | result => result

/-! Patterns made of the basic ones. -/

def kind (k : TokenKind) : Pattern Rule := .token fun t => t.kind = k

/-- One of some words that are no names. -/
def word (s : String) : Pattern Rule :=
  let text := Text.ofString s
  .token fun t => t.kind = .keyword && t.text = text

def sign (s : String) : Pattern Rule :=
  let text := Text.ofString s
  .token fun t => t.kind = .sign && t.text = text

def signs (ss : List String) : Pattern Rule := .alt (ss.map sign)

def words (ss : List String) : Pattern Rule := .alt (ss.map word)

/-- Changes the tree of a match. -/
def map (f : Tree → Tree) (p : Pattern Rule) : Pattern Rule := .act (fun _ t => .accept (f t)) p

/-- A sequence that makes an expression. -/
def node (form : Form) (ps : List (Pattern Rule)) : Pattern Rule :=
  (Pattern.seq ps).map fun t => .node form t.parts

/-- A sequence of which one part is kept. -/
def pick (i : Nat) (ps : List (Pattern Rule)) : Pattern Rule := (Pattern.seq ps).map fun t => t.part i

def maybe (p : Pattern Rule) : Pattern Rule := .alt [p, .seq []]

/-- At least one match. -/
def several (p : Pattern Rule) : Pattern Rule :=
  (Pattern.seq [p, .many p]).map fun t => .group t.flatten

/-- At least one match, with commas between. -/
def list (p : Pattern Rule) : Pattern Rule :=
  (Pattern.seq [p, .many (pick 1 [sign ",", p])]).map fun t => .group t.flatten

/-- A first operand, and others behind operators. -/
def chain (form : Form) (first : Pattern Rule) (more : Pattern Rule) : Pattern Rule :=
  (Pattern.seq [first, .many more]).map fun t =>
    match t.flatten with
    | [t] => t
    | ts => .node form ts

/-- A sequence that is an error. -/
def raise (f : Fault) (ps : List (Pattern Rule)) : Pattern Rule := .act (fun _ _ => .raise f) (.seq ps)

/-- A sequence that is an error, of which the first part is told. -/
def raiseFirst (f : Text → Fault) (ps : List (Pattern Rule)) : Pattern Rule :=
  .act (fun _ t => .raise (f (t.part 0).description)) (.seq ps)

end Pattern

end JsonTypings.Literal
