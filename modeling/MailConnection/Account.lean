import MailConnection.Port
import MailConnection.Scheme
import MailConnection.Text.Blank

/-!
# Accounts

An `Account` holds what is known about one connection to a mail server: protocol,
address and port, the flags, the login with its password, and a domain, which is
the path that some servers put after the host.  A new account is empty.

`setConnection` and `setLogin` each write one half of it and leave the other half
alone; the bit `authenticate` follows the login.  The row identity `id` belongs to
whoever stores accounts: no operation reads it, and two accounts are the same
settings (`SameSettings`) when they agree on everything else.
-/

namespace MailConnection

/-- The port of an account whose port is not known. -/
def unknownPort : Int := -1

/-- Settings of one connection to a mail server. -/
structure Account where
  id : Option Int
  protocol : Option String
  address : Option String
  port : Int
  flags : Flags
  login : Option String
  password : Option String
  domain : Option String
deriving DecidableEq, Repr

namespace Account

/-- The account that nothing has been said about. -/
def empty : Account where
  id := none
  protocol := none
  address := none
  port := unknownPort
  flags := Flags.none
  login := none
  password := none
  domain := none

/-! ## Credentials -/

/-- Store a login and a password.  The connection authenticates when there is a
login. -/
def setLogin (account : Account) (login password : Option String) : Account :=
  { account with
    login := login
    password := password
    flags := { account.flags with authenticate := login.isSome } }

/-- The login and the password of user info `user[:password]`.  The first colon
separates them; empty user info holds neither. -/
def splitUserInfo (info : Option String) : Option String × Option String :=
  match info with
  | none => (none, none)
  | some text =>
    if text = "" then (none, none)
    else
      (some (String.ofList (Text.before ':' text.toList)),
        (Text.after? ':' text.toList).map String.ofList)

/-- Store the credentials of user info `user[:password]`. -/
def setUserInfo (account : Account) (info : Option String) : Account :=
  account.setLogin (splitUserInfo info).1 (splitUserInfo info).2

/-- The trimmed login and the password of an account that authenticates; what is
missing is empty. -/
def credentials? (account : Account) : Option (String × String) :=
  if account.flags.authenticate then
    some (Text.trimString (account.login.getD ""), account.password.getD "")
  else none

/-! ## Connection -/

/-- The port that is meant by a port: an unknown one is the default of the protocol,
if there is one. -/
def resolvePort (protocol : String) (ssl : Bool) (port : Int) : Int :=
  if port = unknownPort then
    match defaultPort? protocol ssl with
    | some known => known
    | none => unknownPort
  else port

/-- Set the protocol from a scheme, and the security mode. -/
def setScheme (account : Account) (scheme : String) (mode : SecurityMode) : Account :=
  { account with
    protocol := some (Scheme.protocol scheme)
    flags := { account.flags with mode := mode } }

/-- Set the port, an unknown one by way of the protocol and the SSL bit. -/
def setPort (account : Account) (port : Int) : Account :=
  { account with
    port := resolvePort (account.protocol.getD "") account.flags.mode.ssl port }

/-- Set protocol, security mode, address and port. -/
def setConnection (account : Account) (scheme : String) (address : Option String) (port : Int)
    (mode : SecurityMode) : Account :=
  { account.setScheme scheme mode with address := address }.setPort port

/-- Notes on the port that `setPort` settles on. -/
def portNotes (protocol : String) (ssl : Bool) (port : Int) : List Note :=
  if port = unknownPort then
    match defaultPort? protocol ssl with
    | some known => [.portInferred protocol ssl known]
    | none => [.portUnknown protocol]
  else []

/-- Whether this is an Exchange ActiveSync connection. -/
def isEas (account : Account) : Bool := account.protocol == some MailProtocol.eas.name

/-! ## Sameness -/

/-- Agreement on everything but the row identity. -/
def SameSettings (a b : Account) : Prop := { a with id := none } = { b with id := none }

instance (a b : Account) : Decidable (SameSettings a b) := inferInstanceAs (Decidable (_ = _))

/-! ## Display -/

/-- A password as it is shown: a blank one as such, any other as ten stars. -/
def maskedPassword : Option String → String
  | none => "None"
  | some password => if password = "" then "SecretStr('')" else "SecretStr('**********')"

/-- The account as a record, the password masked. -/
def display (account : Account) : String :=
  let number : Option Int → String
    | none => "None"
    | some n => toString n
  "ConnectionDescriptor(id=" ++ number account.id ++
    ", protocol=" ++ Text.quotedOption account.protocol ++
    ", address=" ++ Text.quotedOption account.address ++
    ", port=" ++ toString account.port ++
    ", flags=" ++ account.flags.display ++
    ", login=" ++ Text.quotedOption account.login ++
    ", password=" ++ maskedPassword account.password ++
    ", domain=" ++ Text.quotedOption account.domain ++ ")"

end Account

end MailConnection
