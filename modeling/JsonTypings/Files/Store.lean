import JsonTypings.Encoding.Utf8
import JsonTypings.Files.Error
import JsonTypings.Files.Path

/-! A tree of directories and files, with a working directory, as a value. -/
namespace JsonTypings.Files

/-- A place in the tree: the names that lead there from the top. -/
abbrev Place := List Text

inductive Entry where
  | directory
  | file (content : Encoding.Bytes)
  deriving DecidableEq

/-- The entries below the top, which is a directory, and the working directory. -/
structure Store where
  entries : List (Place × Entry)
  working : Place

/-- The longest name of a file, in bytes. -/
def nameLimit : Nat := 255

/-- The longest path, in bytes. -/
def pathLimit : Nat := 4095

/-- The code points that stand for single bytes which are no text. -/
def isByteEscape (c : CodePoint) : Bool := 0xDC80 ≤ c.val && c.val ≤ 0xDCFF

/-- The number of bytes of a file name. -/
def byteLength (t : Text) : Nat :=
  t.foldl (fun n c => n + if isByteEscape c then 1 else (Encoding.Utf8.encodePoint c).length) 0

/-- The first surrogate of a path, from `offset` on, that is no byte of a file name, with those that
follow it. -/
def unencodable? (offset : Nat) : Text → Option Encoding.EncodeError
  | [] => none
  | c :: rest =>
    if c.isSurrogate && !isByteEscape c then
      some ⟨offset, c, 1 + (rest.takeWhile CodePoint.isSurrogate).length⟩
    else unencodable? (offset + 1) rest

namespace Store

/-- A tree of directories that lead to an empty working directory. -/
def empty (working : Place) : Store :=
  ⟨(List.range working.length).map fun n => (working.take (n + 1), .directory), working⟩

def entry? (s : Store) (place : Place) : Option Entry :=
  if place = [] then some .directory else (s.entries.find? fun e => e.1 = place).map Prod.snd

/-- Puts an entry at a place. -/
def put (s : Store) (place : Place) (e : Entry) : Store :=
  let rec go : List (Place × Entry) → List (Place × Entry)
    | [] => [(place, e)]
    | (p, old) :: rest => if p = place then (p, e) :: rest else (p, old) :: go rest
  { s with entries := go s.entries }

/-- What a path leads to: something there, or a place where something may be made. -/
inductive Target where
  | found (place : Place) (e : Entry)
  | vacant (place : Place)

/-- Follows parts from a directory. All parts but the last must lead to directories. -/
def follow (s : Store) (directory : Place) : List Text → Except Fault Target
  | [] => .ok (.found directory .directory)
  | part :: rest =>
    if part = upward then follow s directory.dropLast rest
    else if nameLimit < byteLength part then .error .nameTooLong
    else
      let place := directory ++ [part]
      match s.entry? place with
      | some .directory => follow s place rest
      | some (.file content) =>
        if rest.isEmpty then .ok (.found place (.file content)) else .error .notADirectory
      | none => if rest.isEmpty then .ok (.vacant place) else .error .noSuchFile

/-- Finds the target of a path, if the path can name a file at all. -/
def target (s : Store) (p : Path) : Except FileError Target :=
  let text := p.toText
  match unencodable? 0 text with
  | some e => .error (.unencodable e)
  | none =>
    if text.any fun c => c.val = 0 then .error .nullByte
    else if pathLimit < byteLength text then .error (.refused .nameTooLong text)
    else
      (s.follow (if p.isAbsolute then [] else s.working) p.parts).mapError fun f => .refused f text

/-- The bytes of the file at a path. -/
def read (s : Store) (p : Path) : Except FileError Encoding.Bytes :=
  match s.target p with
  | .error e => .error e
  | .ok (.found _ (.file content)) => .ok content
  | .ok (.found _ .directory) => .error (.refused .isADirectory p.toText)
  | .ok (.vacant _) => .error (.refused .noSuchFile p.toText)

/-- The store in which the file at a path has the given bytes. -/
def write (s : Store) (p : Path) (content : Encoding.Bytes) : Except FileError Store :=
  match s.target p with
  | .error e => .error e
  | .ok (.found _ .directory) => .error (.refused .isADirectory p.toText)
  | .ok (.found place (.file _)) | .ok (.vacant place) => .ok (s.put place (.file content))

def isDirectory (s : Store) (p : Path) : Bool :=
  match s.target p with
  | .ok (.found _ .directory) => true
  | _ => false

def exists? (s : Store) (p : Path) : Bool :=
  match s.target p with
  | .ok (.found _ _) => true
  | _ => false

/-- Makes a directory in one that is there. -/
def makeDirectory (s : Store) (p : Path) : Except FileError Store :=
  match s.target p with
  | .error e => .error e
  | .ok (.found _ _) => .error (.refused .fileExists p.toText)
  | .ok (.vacant place) => .ok (s.put place .directory)

/-- Makes a directory unless it is there. -/
def ensureDirectory (s : Store) (p : Path) : Except FileError Store :=
  match s.makeDirectory p with
  | .ok s => .ok s
  | .error e => if s.isDirectory p then .ok s else .error e

/-- Makes a directory unless it is there, after those above it where they are missing; `depth`
bounds how far up this goes. -/
def ensureDirectories (s : Store) (p : Path) : (depth : Nat) → Except FileError Store
  | 0 => s.ensureDirectory p
  | depth + 1 =>
    match s.makeDirectory p with
    | .error (.refused .noSuchFile _) =>
      match s.ensureDirectories p.parent depth with
      | .error e => .error e
      | .ok s => s.ensureDirectory p
    | _ => s.ensureDirectory p

/-- The files below the working directory, by their paths from there. -/
def files (s : Store) : List (Text × Encoding.Bytes) :=
  s.entries.filterMap fun e =>
    match e.2 with
    | .directory => none
    | .file content =>
      if s.working.isPrefixOf e.1 then
        some (List.intercalate (Text.ofString "/") (e.1.drop s.working.length), content)
      else none

/-- Whether one text comes before another by code points, or equals it. -/
def comesBefore : Text → Text → Bool
  | [], _ => true
  | _ :: _, [] => false
  | c :: t, d :: u => if c = d then comesBefore t u else c.val < d.val

/-- The files that are new since `before` or have other bytes than there, in the order of their
paths. -/
def changedSince (s before : Store) : List (Text × Encoding.Bytes) :=
  let old := before.files
  (s.files.filter fun f => !old.contains f).mergeSort fun f g => comesBefore f.1 g.1

end Store

end JsonTypings.Files
