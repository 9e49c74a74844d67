import JsonTypings.CodePoint.Upper

/-! Names of fields and of interfaces. A hyphen ends a segment of a name and is dropped; a segment
that follows one begins with a capital. -/
namespace JsonTypings.Naming

/-- The stretches between hyphens, at least one. -/
def segments (t : Text) : List Text := Text.splitOn '-' t

theorem segments_ne_nil (t : Text) : segments t ≠ [] := Text.splitOn_ne_nil _ t

@[simp] theorem segments_hyphen (t : Text) : segments (CodePoint.ofChar '-' :: t) = [] :: segments t :=
  Text.splitOn_mark _ t

/-- Puts the first code point into upper case. -/
def capitalize : Text → Text
  | [] => []
  | c :: rest => c.upper ++ rest

@[simp] theorem capitalize_nil : capitalize [] = [] := rfl

/-- The name of an interface: all segments capitalized, as in `GeoPosition`. -/
def pascal (t : Text) : Text := (segments t).flatMap capitalize

/-- The name of a field: all segments but the first capitalized, as in `geoPosition`. -/
def camel (t : Text) : Text :=
  match segments t with
  | [] => []
  | first :: rest => first ++ rest.flatMap capitalize

/-- What stands before a hyphen does not change how the rest is divided. -/
theorem segments_append (a b : Text) :
    segments (a ++ CodePoint.ofChar '-' :: b) = segments a ++ segments b :=
  Text.splitOn_append _ a b

end JsonTypings.Naming
