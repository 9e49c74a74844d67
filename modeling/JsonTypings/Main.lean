import JsonTypings.CommandLine.Session

/-! The command as a program. The part of the file tree that the arguments name is taken up as a
store, the command runs on that, and what it changed there is written back. -/
namespace JsonTypings.CommandLine

open Files

/-- The name of a place for the operating system. -/
def nameOf (place : Place) : String := "/" ++ "/".intercalate (place.map Text.toString)

/-- What is at a place of the file tree. -/
def entryAt? (place : Place) : IO (Option Entry) := do
  let here := (← IO.currentDir).join (nameOf place)
  if ← here.isDir then return some .directory
  else if ← here.pathExists then return some (.file (← IO.FS.readBinFile here).toList)
  else return none

/-- Takes up what a path leads past, as far as there is something. -/
def survey (s : Store) (directory : Place) : List Text → IO Store
  | [] => return s
  | part :: rest =>
    if part = upward then survey s directory.dropLast rest
    else do
      let place := directory ++ [part]
      match ← entryAt? place with
      | none => return s
      | some e => survey (s.put place e) place rest

/-- Takes up the file that some text names. -/
def surveyFile (s : Store) (name : Text) : IO Store :=
  let p := Path.ofText name
  survey s (if p.isAbsolute then [] else s.working) p.parts

/-- The part of the file tree that settings name, and standard input if they ask for it. -/
def deskFor (settings : Settings) : IO Desk := do
  let working := (Path.ofText (Text.ofString (← IO.currentDir).toString)).parts
  let store ← surveyFile (.empty working) (settings.output.getD [])
  if settings.version then return ⟨store, .bytes []⟩
  else if settings.file = standardInput then
    return ⟨store, .bytes (← (← IO.getStdin).readBinToEnd).toList⟩
  else return ⟨← surveyFile store settings.file, .bytes []⟩

/-- A terminal that has the columns it is said to have, or the usual number. -/
def thisHost : IO Host := do
  let columns := ((← IO.getEnv "COLUMNS").bind String.toNat?).getD 80
  return ⟨columns, Markup.render columns, .newer, false⟩

/-- Writes the files that are in one store and not in another. -/
def writeBack (after before : Store) : IO Unit :=
  for (place, e) in after.entries do
    match e with
    | .directory => pure ()
    | .file content =>
      if before.entry? place ≠ some e then
        IO.FS.writeBinFile (nameOf place) (ByteArray.mk content.toArray)

end JsonTypings.CommandLine

open JsonTypings CommandLine in
/-- Runs the command; an error that it does not report ends it with exit code 1. -/
def main (arguments : List String) : IO UInt32 := do
  let arguments := arguments.map Text.ofString
  let host ← thisHost
  let desk ←
    match Settings.ofArguments host.dialect arguments with
    | .ok settings => deskFor settings
    | .error _ => pure ⟨.empty [], .bytes []⟩
  let o := host.run arguments desk
  writeBack o.store desk.store
  IO.print o.out.toString
  IO.eprint o.err.toString
  match o.ending with
  | .ok code => return code.toUInt32
  | .error e =>
    IO.eprintln e.message.toString
    return 1
