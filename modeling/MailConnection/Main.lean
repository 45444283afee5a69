import MailConnection.Console.Run

/-!
# The program

`main` gathers the environment and, for the commands that depend on it, the
configuration file, hands them to `Console.run`, and prints what comes out.
`Console.run_congr_files` says that the other commands do not miss the file.
-/

namespace MailConnection

/-- The variables of the process.  Octets that are no UTF-8 are replaced where they stand. -/
def readEnvironment : IO Environment := do
  let bytes ← IO.FS.readBinFile "/proc/self/environ"
  let text := String.ofList (Text.Utf8.decode (bytes.toList.map UInt8.toNat))
  return (text.splitOn "\x00").filterMap fun entry =>
    match entry.splitOn "=" with
    | name :: value => if name = "" then none else some (name, "=".intercalate value)
    | [] => none

/-- The number of the error that a path leads to a directory. -/
def directoryCode : UInt32 := 21

/-- The number of the error that a path is too long. -/
def tooLongCode : UInt32 := 36

/-- What stands under a path.  The errors that are left tell of something that has no state. -/
def readState (path : String) : IO FileState := do
  try
    return .text (← IO.FS.readFile path)
  catch
    | .noFileOrDirectory .. => return .absent
    | .permissionDenied .. => return .locked
    | .inappropriateType _ code _ => return if code = directoryCode then .directory else .absent
    | .invalidArgument _ code _ => return if code = tooLongCode then .nameTooLong else .absent
    | error => throw error

/-- The first of some paths under which something stands. -/
def readFirst : List FilePath → IO (Option (FilePath × FileState))
  | [] => return none
  | path :: rest => do
    match ← readState path.text with
    | .absent => readFirst rest
    | state => return some (path, state)

/-- The files of the process, of which only the first candidate for the configuration
file is read. -/
def readFiles (environment : Environment) : IO Files := do
  let workingDirectory := FilePath.ofString (toString (← IO.currentDir))
  let found ← readFirst (Settings.candidates environment workingDirectory)
  return {
    workingDirectory := workingDirectory
    state := fun path =>
      match found with
      | some (place, state) => if place = path then state else .absent
      | none => .absent }

/-- What the program has to know of the files to run on some arguments. -/
def filesFor (arguments : List String) (environment : Environment) : IO Files :=
  if Console.usesFiles arguments then readFiles environment
  else return { workingDirectory := FilePath.ofString "/", state := fun _ => .absent }

/-- Run the program on the process that it is. -/
def runProcess (arguments : List String) : IO UInt32 := do
  let environment ← readEnvironment
  let outcome := Console.run arguments environment (← filesFor arguments environment)
  IO.print outcome.output
  IO.eprint outcome.errors
  match outcome.exit with
  | .status n => return n.toUInt32
  | .failure cause => do
    IO.eprintln cause.message
    return 1

end MailConnection

/-- The program: the report of one command, and its exit status. -/
def main (arguments : List String) : IO UInt32 := MailConnection.runProcess arguments
