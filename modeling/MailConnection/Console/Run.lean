import MailConnection.Account.Record
import MailConnection.Console.Command
import MailConnection.Console.Outcome
import MailConnection.ConnectionString.Encode
import MailConnection.Directory
import MailConnection.Settings
import MailConnection.Yaml.Print

/-!
# Running commands

`run` is the program as a function: from the words of the command line, the
environment and the files to an `Outcome`.  Every command has a function of its
own that makes its `Report`.

A password is printed as `maskedText` unless it is asked for (`accountFields`).
-/

namespace MailConnection.Console

/-! ## The fields of an account -/

/-- What is printed in place of a password. -/
def maskedText : String := "********"

/-- A password as it is printed. -/
def shownPassword (showPassword : Bool) (password : Option String) : Option String :=
  if showPassword then password else password.map fun _ => maskedText

/-- An optional text as it is written. -/
private def atomOf : Option String → Yaml.Atom
  | none => .null
  | some s => .text s

/-- The fields of an account as they are printed. -/
def accountFields (showPassword : Bool) (account : Account) : List (String × Yaml.Atom) :=
  [("protocol", atomOf account.protocol),
    ("address", atomOf account.address),
    ("port", .int account.port),
    ("flags", .text account.flags.describe),
    ("login", atomOf account.login),
    ("password", atomOf (shownPassword showPassword account.password)),
    ("domain", atomOf account.domain)]

/-- An account as it is printed. -/
def accountText (showPassword : Bool) (account : Account) : String :=
  Yaml.record (accountFields showPassword account)

/-! ## Encoding -/

/-- Check a value and store it in a field. -/
def storeField (account : Account) (name : String) (value : Value) :
    Except Failure Account :=
  match account.assign name value with
  | (changed, none) => .ok changed
  | (_, some error) => .error (.refused error)

/-- The account with the connection of the fields. -/
def EncodeFields.connected (fields : EncodeFields) : Except Failure Account :=
  match fields.protocol with
  | .text protocol =>
    match Account.empty.connect protocol fields.host fields.port fields.mode with
    | (account, none) => .ok account
    | (_, some error) => .error (.refused error)
  | _ => .error .protocolNotText

/-- The notes on the connection of the fields. -/
def EncodeFields.notes (fields : EncodeFields) : List Note :=
  match fields.protocol, fields.port with
  | .text protocol, .int port => Account.portNotes (Scheme.protocol protocol) fields.mode.ssl port
  | _, _ => []

/-- An account with the credentials and the domain of the fields.  A password without a
login is passed over. -/
def EncodeFields.complete (fields : EncodeFields) (account : Account) :
    Except Failure Account := do
  let authorized ← match fields.login with
    | .null => .ok account
    | login => do
      let named ← storeField account "login" login
      let stored ← storeField named "password" fields.password
      .ok (stored.setLogin stored.login stored.password)
  storeField authorized "domain" fields.domain

/-- Write the connection string for some fields. -/
def encodeReport (verbose : Bool) (fields : EncodeFields) : Report :=
  match fields.connected with
  | .error cause => ⟨[], .failed cause⟩
  | .ok connected =>
    let notes := if verbose then fields.notes else []
    match fields.complete connected with
    | .error cause => ⟨notes, .failed cause⟩
    | .ok account =>
      match account.encode with
      | .ok s => ⟨notes, .printed (s ++ "\n")⟩
      | .error error => ⟨notes, .error error.message⟩

/-! ## Decoding and ports -/

/-- The result of reading a connection string that cannot be read. -/
def Result.ofDecodeError (error : DecodeError) : Result :=
  if error.isSizeError then .failed (.unreadable error) else .error error.message

/-- Show the fields of a connection string. -/
def decodeReport (verbose : Bool) (connection : String) (showPassword : Bool) : Report :=
  let notes := if verbose then ConnectionString.notes connection else []
  match ConnectionString.decode connection with
  | .ok account => ⟨notes, .printed (accountText showPassword account)⟩
  | .error error => ⟨notes, .ofDecodeError error⟩

/-- Show the default port of a protocol. -/
def portReport (protocol : String) (ssl : Bool) : Report :=
  match defaultPort? protocol ssl with
  | some port => ⟨[], .printed (toString port ++ "\n")⟩
  | none => ⟨[], .rejected ("No default port for protocol '" ++ protocol ++ "'")⟩

/-! ## Configured connections -/

/-- The result of settings that cannot be loaded. -/
def Result.ofSettingsError (error : SettingsError) : Result :=
  match error with
  | .refused _ => .error error.message
  | .source (.file ..) => .error error.message
  | .source cause => .failed (.source cause)

/-- The result of a lookup that fails. -/
def Result.ofLookupError (error : Directory.LookupError) : Result :=
  match error with
  | .unreadable cause => .ofDecodeError cause
  | _ => .error error.message

/-- Load the settings and go on with their connections.  The use of the connections is
told whether its notes are shown: either they are asked for, or the level of the log
is low enough. -/
def withDirectory (verbose : Bool) (environment : Environment) (files : Files)
    (use : Bool → Directory → Report) : Report :=
  let loadNotes := if verbose then Settings.loadNotes environment files else []
  match Settings.load environment files with
  | .error error => ⟨loadNotes, .ofSettingsError error⟩
  | .ok settings =>
    let showNotes := verbose || settings.logLevel == .debug
    let report := use showNotes (Directory.ofList settings.connections)
    { report with notes := loadNotes ++ report.notes }

/-- A connection on one line. -/
def connectionLine (connection : NamedConnection) : Except DecodeError String :=
  (ConnectionString.decode connection.connection).map fun account =>
    connection.id ++ ": " ++ account.protocol.getD "" ++ "://" ++ account.address.getD "" ++ ":" ++
      toString account.port ++ "\n"

/-- List all connections. -/
def listReport (showNotes : Bool) (directory : Directory) : Report :=
  if directory.connections = [] then ⟨[], .printed "No connections configured\n"⟩
  else
    let notes :=
      if showNotes then
        directory.connections.flatMap fun entry => ConnectionString.notes entry.connection
      else []
    match directory.connections.mapM connectionLine with
    | .ok lines => ⟨notes, .printed (String.join lines)⟩
    | .error error => ⟨notes, .ofDecodeError error⟩

/-- Show the fields of a connection, its password found in the environment. -/
def showReport (showNotes : Bool) (environment : Environment) (id : String) (showPassword : Bool)
    (directory : Directory) : Report :=
  let notes := if showNotes then directory.accountNotes environment id else []
  match directory.account environment id with
  | .ok account => ⟨notes, .printed (accountText showPassword account)⟩
  | .error error => ⟨notes, .ofLookupError error⟩

/-! ## All commands -/

/-- Run a command.  `verbose` says whether notes are asked for. -/
def Command.report (environment : Environment) (files : Files) (verbose : Bool) : Command → Report
  | .encode fields => encodeReport verbose fields
  | .decode connection showPassword => decodeReport verbose connection showPassword
  | .port protocol ssl => portReport protocol ssl
  | .list => withDirectory verbose environment files listReport
  | .show id showPassword =>
    withDirectory verbose environment files fun showNotes directory =>
      showReport showNotes environment id showPassword directory

/-- Whether a command is about the configured connections. -/
def Command.usesSettings : Command → Bool
  | .list | .show .. => true
  | .encode _ | .decode .. | .port .. => false

/-- The other commands do not look at any file. -/
theorem Command.report_congr_files {command : Command} (h : command.usesSettings = false)
    (environment : Environment) (files other : Files) (verbose : Bool) :
    command.report environment files verbose = command.report environment other verbose := by
  cases command with
  | encode | decode | port => rfl
  | list | «show» => cases h

/-- The outcome when there is no command to run.  Its texts are laid out in lines of some
width. -/
def Refusal.outcome (width : Nat) : Refusal → Outcome
  | .explain command => ⟨.status 0, explanation width command, ""⟩
  | .misuse command error =>
    ⟨.status 2, "",
      usage width command ++ command.program ++ ": error: " ++ error.message ++ "\n"⟩
  | .noCommand => ⟨.status 1, explanation width programForm, ""⟩

/-- The number of columns of a window that nothing is known of. -/
def standardColumns : Nat := 80

/-- The number of columns of the window, as the environment tells it. -/
def windowColumns (environment : Environment) : Nat :=
  match (environment.get? "COLUMNS").map (Text.readInteger 10) with
  | some (.ok n) => if 0 < n then n.toNat else standardColumns
  | _ => standardColumns

/-- Run the program. -/
def run (arguments : List String) (environment : Environment) (files : Files) : Outcome :=
  match Command.read unknownPort arguments with
  | .error refusal => refusal.outcome (lineWidth (windowColumns environment))
  | .ok (command, verbose) => (command.report environment files verbose).outcome

/-- Whether the arguments ask for something that depends on the files. -/
def usesFiles (arguments : List String) : Bool :=
  match Command.read unknownPort arguments with
  | .error _ => false
  | .ok (command, _) => command.usesSettings

/-- Files need not be read for arguments that do not depend on them. -/
theorem run_congr_files {arguments : List String} (h : usesFiles arguments = false)
    (environment : Environment) (files other : Files) :
    run arguments environment files = run arguments environment other := by
  unfold usesFiles at h
  unfold run
  cases hread : Command.read unknownPort arguments with
  | error refusal => rfl
  | ok found =>
    obtain ⟨command, verbose⟩ := found
    rw [hread] at h
    simp only [Command.report_congr_files h environment files other]

end MailConnection.Console
