import JsonTypings.CodePoint

/-! JSON values. Integers are kept apart from floats, and the members of an object keep the order
in which their keys first came. -/
namespace JsonTypings

inductive Value where
  | null
  | bool (b : Bool)
  | int (n : Int)
  | float (x : Float)
  | string (s : Text)
  | array (items : List Value)
  | object (members : List (Text × Value))

/-- Named values in the order in which their names first came. -/
abbrev Members := List (Text × Value)

namespace Value

instance : Inhabited Value := ⟨null⟩

/-- The members of an object; other values have none. -/
def members : Value → Members
  | object ms => ms
  | _ => []

@[simp] theorem members_object (ms : Members) : (object ms).members = ms := rfl

def isNull : Value → Bool
  | null => true
  | _ => false

/-- The word that messages use for the type of a value. -/
def typeName : Value → Text
  | null => Text.ofString "NoneType"
  | bool _ => Text.ofString "bool"
  | int _ => Text.ofString "int"
  | float _ => Text.ofString "float"
  | string _ => Text.ofString "str"
  | array _ => Text.ofString "list"
  | object _ => Text.ofString "dict"

end Value

/-- The six kinds of JSON value. -/
inductive Kind where
  | null | boolean | number | string | array | object
  deriving DecidableEq

namespace Kind

def name : Kind → Text
  | null => Text.ofString "null"
  | boolean => Text.ofString "boolean"
  | number => Text.ofString "number"
  | string => Text.ofString "string"
  | array => Text.ofString "array"
  | object => Text.ofString "object"

end Kind

/-- Integers and floats are of one kind. -/
def Value.kind : Value → Kind
  | null => .null
  | bool _ => .boolean
  | int _ | float _ => .number
  | string _ => .string
  | array _ => .array
  | object _ => .object

theorem Value.kind_eq_object_iff {v : Value} : v.kind = .object ↔ ∃ ms, v = .object ms := by
  cases v <;> simp [kind]

/-- Something to classify: a JSON value, or a thing of a type that JSON does not have. -/
inductive Candidate where
  | value (v : Value)
  | foreign (typeName : Text)

/-- The refusal of a thing that is no JSON value. -/
structure NotJson where
  typeName : Text

namespace NotJson

def message (e : NotJson) : Text := Text.ofString "Not a JSON value: " ++ e.typeName

end NotJson

def Candidate.kind : Candidate → Except NotJson Kind
  | value v => .ok v.kind
  | foreign t => .error ⟨t⟩

namespace Members

/-- A new key goes to the end; a known one keeps its place and takes the new value. -/
def insert : Members → Text → Value → Members
  | [], key, v => [(key, v)]
  | (k, w) :: rest, key, v => if k = key then (k, v) :: rest else (k, w) :: insert rest key v

def get? (ms : Members) (key : Text) : Option Value :=
  (ms.find? fun m => m.1 = key).map Prod.snd

def keys (ms : Members) : List Text := ms.map Prod.fst

@[simp] theorem keys_insert (ms : Members) (key : Text) (v : Value) :
    (ms.insert key v).keys = if key ∈ ms.keys then ms.keys else ms.keys ++ [key] := by
  induction ms with
  | nil => rfl
  | cons m rest ih =>
    obtain ⟨k, w⟩ := m
    by_cases h : k = key
    · simp [insert, keys, h]
    · have h' : ¬ key = k := fun e => h e.symm
      simp only [keys] at ih
      simp only [insert, keys, h, if_false, List.map_cons, List.mem_cons, h', false_or, ih]
      split <;> simp_all

@[simp] theorem get?_insert_self (ms : Members) (key : Text) (v : Value) :
    (ms.insert key v).get? key = some v := by
  induction ms with
  | nil => simp [insert, get?]
  | cons m rest ih =>
    obtain ⟨k, w⟩ := m
    by_cases h : k = key
    · simp [insert, get?, h]
    · simp only [get?] at ih ⊢
      simp [insert, h, ih]

/-- Keys that were distinct stay distinct. -/
theorem nodup_keys_insert {ms : Members} (h : ms.keys.Nodup) (key : Text) (v : Value) :
    (ms.insert key v).keys.Nodup := by
  rw [keys_insert]
  split
  · exact h
  · rename_i hk
    rw [List.nodup_append]
    exact ⟨h, by simp, fun a ha b hb => by rintro rfl; simp_all⟩

end Members

end JsonTypings
