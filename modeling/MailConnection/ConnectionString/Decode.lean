import MailConnection.Account
import MailConnection.ConnectionString.Parts
import MailConnection.Text.Numeral
import MailConnection.Text.Percent

/-!
# Reading connection strings

A connection string is read in three steps.  It is split into its parts, the
authority is cut at its last `@` into user info and endpoint, and the endpoint
is read as a host and a port (`Endpoint.read`).  `decode` puts what was found into
an empty account, and `Account.apply` into any account: connection and
credentials are replaced, the row identity and unnamed flags stay.

An endpoint in brackets is an IPv6 address; escapes in it are resolved, in other
hosts they are not.  A port has to be a decimal numeral of at most
`Text.maxNumeralLength` digits.
-/

namespace MailConnection

/-! ## Errors -/

/-- Why a connection string cannot be read. -/
inductive DecodeError where
  | malformed
  | unterminatedLiteral
  | textAfterLiteral (text : String)
  | portNotNumber (text : String)
  | portTooLong (digits : Nat)
deriving DecidableEq, Repr

/-- What is wrong with a connection string. -/
def DecodeError.reason : DecodeError → String
  | .malformed => "expected 'scheme://host'"
  | .unterminatedLiteral => "unterminated IPv6 literal"
  | .textAfterLiteral text => "unexpected characters after host: " ++ Text.quotedString text
  | .portNotNumber text => "port is not a number: " ++ Text.quotedString text
  | .portTooLong digits => Text.tooLongMessage digits

/-- Whether the error is about the size of a number and not about the form of the
connection string. -/
def DecodeError.isSizeError : DecodeError → Bool
  | .portTooLong _ => true
  | _ => false

/-- The words for an error; one about a size is its own sentence. -/
def DecodeError.message (error : DecodeError) : String :=
  if error.isSizeError then error.reason else "Cannot parse connection string: " ++ error.reason

namespace ConnectionString

/-! ## Endpoints -/

/-- A host and the port after it, if one is given. -/
structure Endpoint where
  host : List Char
  port : Option Nat
deriving DecidableEq, Repr

/-- The port that the text after the colon names. -/
def readPort (cs : List Char) : Except DecodeError (Option Nat) :=
  if cs = [] then .ok none
  else if !cs.all Char.isDigit then .error (.portNotNumber (String.ofList cs))
  else if Text.maxNumeralLength < cs.length then .error (.portTooLong cs.length)
  else .ok (some (Text.numeralValue cs))

/-- The host and port of `host[:port]`, where an IPv6 host stands in brackets. -/
def Endpoint.read (cs : List Char) : Except DecodeError Endpoint :=
  match cs with
  | '[' :: rest =>
    match Text.after? ']' rest with
    | none => .error .unterminatedLiteral
    | some tail =>
      let host := Text.Percent.unescape (Text.before ']' rest)
      match tail with
      | [] => .ok ⟨host, none⟩
      | ':' :: digits => (readPort digits).map fun port => ⟨host, port⟩
      | _ => .error (.textAfterLiteral (String.ofList tail))
  | _ =>
    (readPort ((Text.after? ':' cs).getD [])).map fun port => ⟨Text.before ':' cs, port⟩

/-! ## Credentials and domain -/

/-- The login and the password that escaped user info names. -/
def readCredentials (userInfo : List Char) : Option String × Option String :=
  if userInfo = [] then (none, none)
  else
    (some (String.ofList (Text.Percent.unescape (Text.before ':' userInfo))),
      (Text.after? ':' userInfo).map fun password =>
        String.ofList (Text.Percent.unescape password))

/-- The domain that a path names: the path without its first slash. -/
def readDomain (path : List Char) : Option String :=
  match path with
  | [] => none
  | _ :: rest => some (String.ofList (Text.Percent.unescape rest))

/-! ## Accounts -/

/-- What a connection string says. -/
structure Content where
  scheme : String
  endpoint : Endpoint
  login : Option String
  password : Option String
  domain : Option String
deriving DecidableEq, Repr

/-- What the parts of a connection string say. -/
def Parts.content (parts : Parts) : Except DecodeError Content := do
  let endpoint ← Endpoint.read (Text.afterLast '@' parts.authority)
  let credentials := readCredentials (Text.beforeLast '@' parts.authority)
  return {
    scheme := String.ofList parts.scheme
    endpoint := endpoint
    login := credentials.1
    password := credentials.2
    domain := readDomain parts.path }

/-- What a connection string says. -/
def read (s : String) : Except DecodeError Content :=
  match split? s.toList with
  | none => .error .malformed
  | some parts => parts.content

/-- The port of a connection string as an account stores it. -/
def Content.port (content : Content) : Int :=
  match content.endpoint.port with
  | none => unknownPort
  | some n => n

/-- The account with connection, credentials and domain replaced. -/
def Content.applyTo (content : Content) (account : Account) : Account :=
  let connected := account.setConnection content.scheme
    (some (String.ofList content.endpoint.host)) content.port (Scheme.mode content.scheme)
  { connected.setLogin content.login content.password with domain := content.domain }

/-- The notes that putting this content into an account leaves. -/
def Content.notes (content : Content) : List Note :=
  Scheme.notes content.scheme ++
    Account.portNotes (Scheme.protocol content.scheme) (Scheme.mode content.scheme).ssl
      content.port

end ConnectionString

/-- Replace connection, credentials and domain by what a connection string says. -/
def Account.apply (account : Account) (s : String) : Except DecodeError Account :=
  (ConnectionString.read s).map fun content => content.applyTo account

namespace ConnectionString

/-- The account that a connection string describes. -/
def decode (s : String) : Except DecodeError Account := Account.empty.apply s

/-- The notes that reading a connection string leaves. -/
def notes (s : String) : List Note :=
  match read s with
  | .ok content => content.notes
  | .error _ => []

end ConnectionString

end MailConnection
