import MailConnection.Environment
import MailConnection.Files
import MailConnection.Value.Json
import MailConnection.Yaml.Content

/-!
# Where settings come from

Settings are the fields of a configuration file and those of the environment.  The
file is the first that exists of a few candidates; later candidates are never
looked at.  A field in the environment takes the place of the same field in the
file and of nothing else.
-/

namespace MailConnection

/-! ## Errors -/

/-- Why a configuration file cannot be used. -/
inductive ConfigFileError where
  | problem (text : String) (mark : Yaml.Mark)
  | character (c : Char) (position : Nat)
  | directory
  | locked
  | notMapping
deriving DecidableEq, Repr

/-- What is said about a configuration file that cannot be opened. -/
private def cannotRead (path reason : String) : String :=
  "Configuration error in " ++ path ++ ": Cannot read config file: " ++ reason ++ ": " ++
    Text.quotedString path

/-- What is said about a configuration file that cannot be used. -/
def ConfigFileError.message (path : String) : ConfigFileError → String
  | .problem text mark =>
    "Configuration error in " ++ path ++ " at line " ++ toString (mark.line + 1) ++ ", column " ++
      toString (mark.column + 1) ++ ": Invalid YAML syntax: " ++ text
  | .character c position =>
    let digits := Nat.toDigits 16 c.toNat
    "Configuration error in " ++ path ++ ": Invalid YAML syntax: unacceptable character #x" ++
      String.ofList (List.replicate (4 - digits.length) '0' ++ digits) ++
      ": special characters are not allowed\n  in \"" ++ path ++ "\", position " ++
      toString position
  | .directory => cannotRead path "[Errno 21] Is a directory"
  | .locked => cannotRead path "[Errno 13] Permission denied"
  | .notMapping => "Configuration error in " ++ path ++ ": Top level must be a mapping"

/-- Why the fields of the settings cannot be gathered. -/
inductive SourceError where
  | file (path : String) (error : ConfigFileError)
  | conversion (error : Yaml.ConversionError)
  | documentTooDeep
  | pathTooLong (path : String)
  | homeUnknown
  | variable (error : Json.Error)
  | fieldName
deriving DecidableEq, Repr

/-- The words for an error. -/
def SourceError.message : SourceError → String
  | .file path error => error.message path
  | .conversion error => error.message
  | .documentTooDeep => "maximum recursion depth exceeded"
  | .pathTooLong path => "[Errno 36] File name too long: " ++ Text.quotedString path
  | .homeUnknown => "Could not determine home directory."
  | .variable .malformed =>
    "error parsing value for field \"connections\" from source \"EnvSettingsSource\""
  | .variable .listTooDeep =>
    "maximum recursion depth exceeded while decoding a JSON array from a unicode string"
  | .variable .objectTooDeep =>
    "maximum recursion depth exceeded while decoding a JSON object from a unicode string"
  | .fieldName => "keywords must be strings"

namespace Settings

/-! ## The configuration file -/

/-- Whether the home directory is unknown: a tilde is what stands for it, not what it is
called. -/
def homeUnknown (environment : Environment) : Bool :=
  ((environment.get? "HOME").getD "").toList.head? == some '~'

/-- The home directory.  If the variable is not set, the records of the system would have to
be asked for it; nothing is known of them here, and the root directory is taken instead. -/
def homeDirectory (environment : Environment) : FilePath :=
  let trimmed := ((environment.get? "HOME").getD "").toList.reverse.dropWhile (· == '/')
  if trimmed = [] then ⟨"/", []⟩ else FilePath.ofString (String.ofList trimmed.reverse)

/-- The directory of configuration files of all programs. -/
def configHome (environment : Environment) : FilePath :=
  match environment.get? "XDG_CONFIG_HOME" with
  | some s => FilePath.ofString s
  | none => (homeDirectory environment).child ".config"

/-- The files that may be the configuration file, in the order in which they are looked
for. -/
def candidates (environment : Environment) (workingDirectory : FilePath) : List FilePath :=
  let named := match environment.get? "HOSTAUTH_CONFIG_FILE" with
    | some s => if s = "" then [] else [FilePath.ofString s]
    | none => []
  named ++
    [workingDirectory.child "hostauth.yaml",
      ((configHome environment).child "mail-hostauth").child "config.yaml"]

/-- The first candidate that exists, and what it is. -/
def configFile? (environment : Environment) (files : Files) : Option (FilePath × FileState) :=
  ((candidates environment files.workingDirectory).map fun path => (path, files.state path)).find?
    fun found => found.2 != .absent

/-- The fields of a configuration file with some content. -/
def fieldsOfText (path content : String) : Except SourceError (List (Value × Value)) :=
  match Yaml.read content with
  | .ok .null => .ok []
  | .ok (.record entries) => .ok entries
  | .ok _ => .error (.file path .notMapping)
  | .error (.problem text mark) => .error (.file path (.problem text mark))
  | .error (.character c position) => .error (.file path (.character c position))
  | .error (.conversion error) => .error (.conversion error)
  | .error .tooDeep => .error .documentTooDeep

/-- The fields of the configuration file, none if there is no such file.  The home
directory has to be known even if the file is found elsewhere. -/
def fileFields (environment : Environment) (files : Files) :
    Except SourceError (List (Value × Value)) :=
  if homeUnknown environment then .error .homeUnknown
  else match configFile? environment files with
    | some (path, .text content) => fieldsOfText path.text content
    | some (path, .directory) => .error (.file path.text .directory)
    | some (path, .locked) => .error (.file path.text .locked)
    | some (path, .nameTooLong) => .error (.pathTooLong path.text)
    | _ => .ok []

/-! ## The environment -/

/-- The fields of the environment.  The connections are given in JSON; null is taken
for not given. -/
def environmentFields (environment : Environment) : Except SourceError (List (String × Value)) :=
  let level := match environment.getAnyCase? "hostauth_log_level" with
    | some s => [("log_level", Value.text s)]
    | none => []
  match environment.getAnyCase? "hostauth_connections" with
  | none => .ok level
  | some s =>
    match Json.parse s with
    | .error error => .error (.variable error)
    | .ok .null => .ok level
    | .ok value => .ok (("connections", value) :: level)

/-! ## Both -/

/-- Whether an entry has a text as its key. -/
def hasTextKey (entry : Value × Value) : Bool := entry.1 matches .text _

/-- The fields of the file with those of the environment in their places. -/
def fields (environment : Environment) (files : Files) :
    Except SourceError (List (Value × Value)) := do
  let above ← environmentFields environment
  let below ← fileFields environment files
  let entries := above.foldl (fun acc (name, value) => Value.setEntry (.text name) value acc) below
  if entries.all hasTextKey then return entries
  else throw .fieldName

end Settings

end MailConnection
