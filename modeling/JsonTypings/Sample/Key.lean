import JsonTypings.Random.Draw
import JsonTypings.Value

/-! Keys of sample documents: one to three different words in kebab, snake or camel case. -/
namespace JsonTypings.Sample

def keyWords : List Text :=
  ["user", "name", "geo", "position", "item", "order", "created", "at", "id", "status", "tag",
    "address"].map Text.ofString

/-- How the words of a key are put together. -/
inductive KeyStyle where
  | kebab | snake | camel
  deriving DecidableEq

namespace KeyStyle

/-- Two of five keys are kebab case, one of five is snake case. -/
def ofFraction (m : Nat) : KeyStyle :=
  if Draw.isBelow m 2 5 then kebab else if Draw.isBelow m 3 5 then snake else camel

/-- A lower case ASCII word with a capital first letter. -/
def capitalWord : Text → Text
  | [] => []
  | c :: rest => (if 0x61 ≤ c.val && c.val ≤ 0x7A then .ofNat (c.val - 0x20) else c) :: rest

def join (style : KeyStyle) (words : List Text) : Text :=
  match style, words with
  | kebab, words => List.intercalate (Text.ofString "-") words
  | snake, words => List.intercalate (Text.ofString "_") words
  | camel, [] => []
  | camel, first :: rest => first ++ rest.flatMap capitalWord

end KeyStyle

/-- A key, whether it is taken or not. -/
def key : Draw Text := do
  let count ← Draw.between 1 3
  let words ← Draw.chooseDistinct keyWords count.toNat
  let style := KeyStyle.ofFraction (← Draw.fraction)
  return style.join words

/-- A key that is not taken. -/
def newKey (taken : List Text) : Draw Text :=
  Draw.retry do
    let k ← key
    return if k ∈ taken then none else some k

end JsonTypings.Sample
