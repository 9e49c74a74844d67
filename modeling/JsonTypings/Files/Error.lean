import JsonTypings.Encoding.Error
import JsonTypings.Quoted

/-! Why a file cannot be reached. -/
namespace JsonTypings.Files

/-- What the file system objects to. -/
inductive Fault where
  | noSuchFile
  | fileExists
  | notADirectory
  | isADirectory
  | nameTooLong
  deriving DecidableEq

namespace Fault

def number : Fault → Nat
  | noSuchFile => 2
  | fileExists => 17
  | notADirectory => 20
  | isADirectory => 21
  | nameTooLong => 36

def wording : Fault → Text
  | noSuchFile => Text.ofString "No such file or directory"
  | fileExists => Text.ofString "File exists"
  | notADirectory => Text.ofString "Not a directory"
  | isADirectory => Text.ofString "Is a directory"
  | nameTooLong => Text.ofString "File name too long"

end Fault

/-- A refused path: by the file system, or before it is asked because the path is no file name. -/
inductive FileError where
  | refused (fault : Fault) (path : Text)
  | nullByte
  | unencodable (e : Encoding.EncodeError)
  deriving DecidableEq

def FileError.message : FileError → Text
  | .refused fault path =>
    Text.ofString "[Errno " ++ Text.ofNat fault.number ++ Text.ofString "] " ++ fault.wording ++
      Text.ofString ": " ++ Text.quoted path
  | .nullByte => Text.ofString "embedded null byte"
  | .unencodable e => e.message

end JsonTypings.Files
