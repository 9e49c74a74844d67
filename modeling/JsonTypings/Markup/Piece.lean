import JsonTypings.CodePoint

/-! Messages cut into plain text and the style tags in it, which square brackets enclose. -/
namespace JsonTypings.Markup

/-- What stands between the brackets of a tag: a name, and parameters behind an equals sign. -/
structure Tag where
  name : Text
  parameters : Option Text
  deriving DecidableEq

namespace Tag

def ofBody (body : Text) : Tag :=
  let name := body.takeWhile (· ≠ CodePoint.ofChar '=')
  ⟨name, (body.drop name.length).tail?⟩

def body (t : Tag) : Text :=
  t.name ++
    match t.parameters with
    | none => []
    | some parameters => CodePoint.ofChar '=' :: parameters

/-- A tag keeps all that it was made of. -/
@[simp] theorem body_ofBody (t : Text) : (ofBody t).body = t := by
  simp only [ofBody, body]
  induction t with
  | nil => simp
  | cons c rest ih =>
    by_cases h : c = CodePoint.ofChar '='
    · simp [h]
    · simpa [h] using ih

/-- The words for the style that the tag asks for. -/
def style (t : Tag) : Text :=
  t.name ++
    match t.parameters with
    | none => []
    | some parameters => CodePoint.ofChar ' ' :: parameters

end Tag

/-- A part of a message: text to show, or a tag and where it stands. -/
inductive Piece where
  | plain (t : Text)
  | tag (t : Tag) (position : Nat)
  deriving DecidableEq

def isTagStart (c : CodePoint) : Bool :=
  (0x61 ≤ c.val && c.val ≤ 0x7A) || c = '#' || c = '/' || c = '@'

/-- The body of the tag whose opening bracket stands before the text. Its first code point is of a
few, and no bracket opens inside it. -/
def tagBody? (t : Text) : Option Text :=
  match t with
  | [] => none
  | c :: rest =>
    if isTagStart c then
      let body := rest.takeWhile fun (d : CodePoint) => d ≠ ']' && d ≠ '['
      match rest.drop body.length with
      | d :: _ => if d = ']' then some (c :: body) else none
      | [] => none
    else none

def backslashes (n : Nat) : Text := List.replicate n (CodePoint.ofChar '\\')

/-- Cuts a message into pieces, from `position` on. Before it came `plain`, kept last first, then as
many backslashes as `pending` says; of a tag, `skip` code points are still to be passed over. Two
backslashes before a tag show one, and a single one makes it text; of those before any other bracket
one is dropped. -/
def pieces (position pending skip : Nat) (plain : Text) : Text → List Piece
  | [] => [.plain (backslashes pending ++ plain).reverse]
  | c :: rest =>
    match skip with
    | skip + 1 => pieces (position + 1) 0 skip plain rest
    | 0 =>
      if c = '\\' then pieces (position + 1) (pending + 1) 0 plain rest
      else if c ≠ '[' then pieces (position + 1) 0 0 (c :: (backslashes pending ++ plain)) rest
      else
        match tagBody? rest with
        | none => pieces (position + 1) 0 0 (c :: (backslashes (pending - 1) ++ plain)) rest
        | some body =>
          let piece :=
            if pending % 2 = 0 then .tag (.ofBody body) position
            else .plain (c :: (body ++ [CodePoint.ofChar ']']))
          .plain plain.reverse :: .plain (backslashes (pending / 2)) :: piece ::
            pieces (position + 1) 0 (body.length + 1) [] rest

/-- The pieces of a message. -/
def Piece.ofMessage (message : Text) : List Piece := pieces 0 0 0 [] message

end JsonTypings.Markup
