import MailConnection.NamedConnection
import MailConnection.Settings.Source

/-!
# Settings

The settings are the named connections and the level of the log.  No two
connections may have the same name (`firstRepeated?`), and there are no other
fields.  `Settings.load` gathers the fields from the configuration file and the
environment and checks them all.
-/

namespace MailConnection

/-! ## Levels of the log -/

/-- How serious a message has to be to stand in the log. -/
inductive LogLevel where
  | debug
  | info
  | warning
  | error
  | critical
deriving DecidableEq, Repr, Inhabited

namespace LogLevel

/-- The word for a level. -/
def name : LogLevel → String
  | .debug => "DEBUG"
  | .info => "INFO"
  | .warning => "WARNING"
  | .error => "ERROR"
  | .critical => "CRITICAL"

/-- A character in upper case, as far as the result is an ASCII letter.  Besides the
small ASCII letters there are two: the dotless i and the long s. -/
def upperAscii (c : Char) : Char :=
  if c = '\u0131' then 'I' else if c = '\u017F' then 'S' else c.toUpper

/-- The level with a name, in any mixture of cases. -/
def ofName? (s : String) : Option LogLevel :=
  let upper := s.toList.map upperAscii
  [debug, info, warning, error, critical].find? fun level => level.name.toList == upper

theorem ofName?_name (level : LogLevel) : ofName? level.name = some level := by
  cases level <;> decide

end LogLevel

/-! ## Settings -/

/-- The settings of the program. -/
structure Settings where
  connections : List NamedConnection
  logLevel : LogLevel
deriving DecidableEq, Repr

/-- Why there are no settings. -/
inductive SettingsError where
  | source (error : SourceError)
  | refused (errors : List FieldError)
deriving DecidableEq, Repr

/-- The words for an error. -/
def SettingsError.message : SettingsError → String
  | .source error => error.message
  | .refused errors => (friendlyMessage? errors).getD ""

namespace Settings

/-! ## Connections -/

/-- Check the entries of a list, which start at some place of it. -/
def readEntries (start : Nat) : List Value → Except (List FieldError) (List NamedConnection)
  | [] => .ok []
  | value :: rest =>
    match NamedConnection.read value, readEntries (start + 1) rest with
    | .ok connection, .ok connections => .ok (connection :: connections)
    | .ok _, .error errors => .error errors
    | .error errors, .ok _ => .error (errors.map (FieldError.under (.item start)))
    | .error errors, .error others =>
      .error (errors.map (FieldError.under (.item start)) ++ others)

/-- The first of some names that has occurred before. -/
def firstRepeated? (seen : List String) : List String → Option String
  | [] => none
  | name :: rest => if seen.contains name then some name else firstRepeated? (name :: seen) rest

/-- Check the list of connections. -/
def readConnections : Value → Except (List FieldError) (List NamedConnection)
  | .list items => do
    let connections ← readEntries 0 items
    match firstRepeated? [] (connections.map (·.id)) with
    | none => return connections
    | some id => throw [⟨[], .value ("duplicate connection id '" ++ id ++ "'")⟩]
  | _ => .error [⟨[], .notList⟩]

/-- Check the level of the log. -/
def readLogLevel (value : Value) : Except (List FieldError) LogLevel :=
  match Validation.readText value with
  | .error fault => .error [⟨[], fault⟩]
  | .ok s =>
    match LogLevel.ofName? s with
    | some level => .ok level
    | none => .error [⟨[], .value ("unknown log level '" ++ s ++ "'")⟩]

/-! ## All fields -/

/-- Check a field that may be left out. -/
def checkField {α : Type} (entries : List (Value × Value)) (name : String) (absent : α)
    (read : Value → Except (List FieldError) α) : Except (List FieldError) α :=
  match Value.lookup name entries with
  | none => .ok absent
  | some value => (read value).mapError fun errors => errors.map (FieldError.under (.field name))

/-- The names of the fields. -/
def fieldNames : List String := ["connections", "log_level"]

/-- The errors of fields that do not exist. -/
def extraErrors (entries : List (Value × Value)) : List FieldError :=
  entries.filterMap fun (key, _) =>
    match key with
    | .text name => if fieldNames.contains name then none else some ⟨[.field name], .extra⟩
    | _ => none

/-- The errors of a check, if it failed. -/
def errorsOf {α : Type} : Except (List FieldError) α → List FieldError
  | .ok _ => []
  | .error errors => errors

/-- Check all fields. -/
def read (entries : List (Value × Value)) : Except (List FieldError) Settings :=
  let connections := checkField entries "connections" [] readConnections
  let level := checkField entries "log_level" LogLevel.warning readLogLevel
  match connections, level, extraErrors entries with
  | .ok connections, .ok level, [] => .ok ⟨connections, level⟩
  | _, _, extra => .error (errorsOf connections ++ errorsOf level ++ extra)

/-- The settings that the environment and the configuration file make. -/
def load (environment : Environment) (files : Files) : Except SettingsError Settings :=
  match fields environment files with
  | .error error => .error (.source error)
  | .ok entries => (read entries).mapError .refused

/-- The notes that checking the settings leaves: those of their connections. -/
def loadNotes (environment : Environment) (files : Files) : List Note :=
  match fields environment files with
  | .error _ => []
  | .ok entries =>
    match Value.lookup "connections" entries with
    | some (.list items) => items.flatMap NamedConnection.readNotes
    | _ => []

end Settings

end MailConnection
