import MailConnection.Console.Arguments
import MailConnection.Console.Help
import MailConnection.Security
import MailConnection.Value

/-!
# The commands of the program

The program has five commands: `encode` writes a connection string from fields,
`decode` shows the fields of one, `port` shows a default port, `list` shows the
configured connections and `show` one of them.  `Command.read` reads them from
the words of a command line.
-/

namespace MailConnection.Console

/-! ## Forms -/

/-- The option that every command has. -/
private def helpOption : OptionForm :=
  ⟨["-h", "--help"], .help, false, none, "show this help message and exit"⟩

/-- An option that is given or not. -/
private def switch (name help : String) (group : Option Nat) : OptionForm :=
  ⟨[name], .switch, false, group, help⟩

/-- An option that takes a text. -/
private def textOption (name valueName help : String) (required : Bool) : OptionForm :=
  ⟨[name], .text valueName, required, none, help⟩

/-- The option that shows passwords. -/
private def showPassword : OptionForm :=
  switch "--show-password" "Print the password instead of masking it" none

/-- The names of the commands and what they are for. -/
def commandList : List (String × String) :=
  [("encode", "Build a connection string from fields"),
    ("decode", "Show the fields of a connection string"),
    ("port", "Show the default port for a protocol"),
    ("list", "List configured connections"),
    ("show", "Show a configured connection")]

/-- The program before its commands. -/
def programForm : CommandForm where
  program := "hostauth"
  description := "Encode, decode and inspect mail server connection strings"
  operand := some ⟨"command", "Available commands", commandList⟩
  options := [helpOption, ⟨["-v", "--verbose"], .switch, false, none, "Enable debug logging"⟩]

/-- The help for the option that names a protocol. -/
private def protocolHelp : String := "Protocol (imap, pop3, smtp, eas)"

/-- The form of the command that writes a connection string. -/
def encodeForm : CommandForm where
  program := "hostauth encode"
  description := ""
  operand := none
  options :=
    [helpOption,
      textOption "--protocol" "PROTOCOL" protocolHelp true,
      textOption "--host" "HOST" "Server host name or IP address" true,
      ⟨["--port"], .number "PORT", false, none,
        "Server port (default: inferred from protocol and security)"⟩,
      switch "--ssl" "Use SSL" (some 0),
      switch "--tls" "Use TLS" (some 0),
      switch "--trust-all" "Trust all certificates (requires --ssl or --tls)" none,
      textOption "--login" "LOGIN" "User name" false,
      textOption "--password" "PASSWORD" "Password" false,
      textOption "--domain" "DOMAIN" "Path suffix, e.g. an EAS mailbox path" false]

/-- The form of the command that takes a connection string apart. -/
def decodeForm : CommandForm where
  program := "hostauth decode"
  description := ""
  operand := some ⟨"connection", "Connection string", []⟩
  options := [helpOption, showPassword]

/-- The form of the command that tells a protocol's default port. -/
def portForm : CommandForm where
  program := "hostauth port"
  description := ""
  operand := some ⟨"protocol", protocolHelp, []⟩
  options := [helpOption, switch "--ssl" "Use the SSL port" none]

/-- The form of the command that lists the configured connections. -/
def listForm : CommandForm where
  program := "hostauth list"
  description := ""
  operand := none
  options := [helpOption]

/-- The form of the command that shows one configured connection. -/
def showForm : CommandForm where
  program := "hostauth show"
  description := ""
  operand := some ⟨"connection_id", "Connection ID from the config file", []⟩
  options := [helpOption, showPassword]

/-! ## Commands -/

/-- What the command `encode` is given.  A value that nothing is left of is an empty
list, which no field accepts; a value that is not given is null. -/
structure EncodeFields where
  protocol : Value
  host : Value
  port : Value
  mode : SecurityMode
  login : Value
  password : Value
  domain : Value
deriving Repr

/-- A command with what it is given. -/
inductive Command where
  | encode (fields : EncodeFields)
  | decode (connection : String) (showPassword : Bool)
  | port (protocol : String) (ssl : Bool)
  | list
  | show (id : String) (showPassword : Bool)
deriving Repr

/-- Why there is nothing to run: a command is to be explained, or its words are no use,
or no command is given. -/
inductive Refusal where
  | explain (command : CommandForm)
  | misuse (command : CommandForm) (error : UsageError)
  | noCommand
deriving Repr

/-- What is given with an option as the value of a field. -/
def Given.value : Given → Value
  | .switch => .bool true
  | .text s => .text s
  | .number n => .int n
  | .nothing => .list []

/-- The value of the option with a name. -/
def Reading.value (reading : Reading) (name : String) (absent : Value) : Value :=
  ((reading.last? name).map Given.value).getD absent

/-- The word that is the operand. -/
def Reading.operandWord (reading : Reading) : String := (reading.operand.getD []).headD ""

/-- The fields for `encode`.  SSL and TLS are never given together. -/
def encodeFields (unknownPort : Int) (reading : Reading) : EncodeFields where
  protocol := reading.value "--protocol" .null
  host := reading.value "--host" .null
  port := reading.value "--port" (.int unknownPort)
  mode :=
    ⟨reading.has "--ssl", reading.has "--tls" && !reading.has "--ssl",
      reading.has "--trust-all"⟩
  login := reading.value "--login" .null
  password := reading.value "--password" .null
  domain := reading.value "--domain" .null

/-- The form of the command with a name, and the command that a reading of it makes. -/
def commandOf (unknownPort : Int) (name : String) : CommandForm × (Reading → Command) :=
  match name with
  | "encode" => (encodeForm, fun reading => .encode (encodeFields unknownPort reading))
  | "decode" =>
    (decodeForm, fun reading => .decode reading.operandWord (reading.has "--show-password"))
  | "port" => (portForm, fun reading => .port reading.operandWord (reading.has "--ssl"))
  | "show" => (showForm, fun reading => .show reading.operandWord (reading.has "--show-password"))
  | _ => (listForm, fun _ => .list)

/-- Read the words of a command, the failure with the form of the command. -/
def readForm (command : CommandForm) (arguments : List String) :
    Except Refusal Reading :=
  match read command arguments with
  | .ok reading => .ok reading
  | .error .help => .error (.explain command)
  | .error (.error error) => .error (.misuse command error)

/-- The command that a command line gives, and whether it asks for notes.  `unknownPort`
stands for a port that is not given. -/
def Command.read (unknownPort : Int) (arguments : List String) :
    Except Refusal (Command × Bool) := do
  let outer ← readForm programForm arguments
  match outer.operand with
  | none =>
    if outer.leftOver = [] then throw .noCommand
    else throw (.misuse programForm (.leftOver outer.leftOver))
  | some chosen =>
    let (form, make) := commandOf unknownPort (chosen.headD "")
    let inner ← readForm form (chosen.drop 1)
    match outer.leftOver ++ inner.leftOver with
    | [] => return (make inner, outer.has "-v")
    | words => throw (.misuse programForm (.leftOver words))

end MailConnection.Console
