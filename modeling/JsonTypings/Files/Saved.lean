import JsonTypings.Files.Store
import JsonTypings.Json.Writer

/-! Values kept in files as indented JSON, and a line that tells where. -/
namespace JsonTypings.Files

/-- Why a value was not saved. A path of which the report cannot be encoded is refused last. -/
inductive SaveError where
  | file (e : FileError)
  | unencodable (e : Encoding.EncodeError)

def SaveError.message : SaveError → Text
  | .file e => e.message
  | .unencodable e => e.message

/-- How saving ended, what was printed, and the files that are there now. -/
structure Saved where
  error? : Option SaveError
  out : Text
  store : Store

/-- Prints a line, if it can be encoded. -/
def printLine (out line : Text) (store : Store) : Saved :=
  match Encoding.Utf8.encode line with
  | .error e => ⟨some (.unencodable e), out, store⟩
  | .ok _ => ⟨none, out ++ line ++ Text.ofString "\n", store⟩

/-- Saves a value, after `out` was printed, and then prints the line. -/
def Store.save (s : Store) (p : Path) (v : Value) (out line : Text) : Saved :=
  match s.write p (Encoding.Utf8.encodePassing (Json.writeIndented v)) with
  | .error e => ⟨some (.file e), out, s⟩
  | .ok s => printLine out line s

end JsonTypings.Files
