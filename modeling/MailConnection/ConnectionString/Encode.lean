import MailConnection.ConnectionString.Decode
import MailConnection.Host

/-!
# Writing connection strings

`encode` writes an account as `scheme://[login:password@]host[:port][/domain]`.
Login and address are trimmed, a negative port is left out, and login, password
and domain are escaped, each with a safe set of its own: in a login the colon is
escaped, so that the first colon of the user info always ends the login.

Protocol and address have to be legal where they stand; the first that is not is
reported (`EncodeError`).
-/

namespace MailConnection

/-! ## Errors -/

/-- Why an account cannot be written as a connection string. -/
inductive EncodeError where
  | protocolMissing
  | schemeIllegal (scheme : String)
  | addressMissing
  | addressIllegal (address : String) (defect : Host.Defect)
deriving DecidableEq, Repr

/-- What is wrong with an address. -/
def Host.Defect.reason : Host.Defect → String
  | .literal => "not a valid IPv6 literal"
  | .name => "not a valid host name"
  | .topLabel => "top-level label must start with a letter"

/-- The words for an error, with the part of the account that is at fault. -/
def EncodeError.message : EncodeError → String
  | .protocolMissing => "Invalid protocol None: a protocol is required"
  | .schemeIllegal scheme =>
    "Invalid scheme " ++ Text.quotedString scheme ++
      ": must start with a letter and contain only letters, digits, '+', '-' or '.'"
  | .addressMissing => "Invalid address None: a host is required"
  | .addressIllegal address defect =>
    "Invalid address " ++ Text.quotedString address ++ ": " ++ defect.reason

namespace ConnectionString

/-! ## Legal schemes -/

/-- A letter, followed by letters, digits, `+`, `-` and `.`. -/
def isPlainScheme (cs : List Char) : Bool :=
  cs.head?.any Char.isAlpha &&
    cs.all fun c => c.isAlphanum || c == '+' || c == '-' || c == '.'

/-- A scheme that may be written.  A line feed may end it. -/
def isScheme (cs : List Char) : Bool :=
  isPlainScheme cs || (cs.getLast? == some '\n' && isPlainScheme cs.dropLast)

/-! ## Safe characters -/

/-- Characters that stand unescaped in a login. -/
def loginSafe (c : Char) : Bool :=
  Text.Percent.isUnreserved c ||
    ['!', '*', '\'', '(', ')', ';', '&', '=', '+', '$', ','].contains c

/-- Characters that stand unescaped in a password. -/
def passwordSafe (c : Char) : Bool := loginSafe c || c == ':'

/-- Characters that stand unescaped in a domain. -/
def domainSafe (c : Char) : Bool := passwordSafe c || c == '@' || c == '/'

/-! ## Writing the parts -/

/-- The credentials before the host. -/
def writeCredentials : Option (String × String) → List Char
  | none => []
  | some (login, password) =>
    Text.Percent.escape loginSafe login.toList ++
      ':' :: (Text.Percent.escape passwordSafe password.toList ++ ['@'])

/-- The port after the host, unless it is negative. -/
def writePort : Int → List Char
  | .ofNat n => ':' :: Text.numeral n
  | .negSucc _ => []

/-- The domain at the end. -/
def writeDomain : Option String → List Char
  | none => []
  | some domain => '/' :: Text.Percent.escape domainSafe domain.toList

/-- The scheme of an account. -/
def writeScheme (account : Account) : Except EncodeError (List Char) :=
  match account.protocol with
  | none => .error .protocolMissing
  | some protocol =>
    let scheme := Scheme.encode protocol account.flags.mode
    if isScheme scheme.toList then .ok scheme.toList else .error (.schemeIllegal scheme)

/-- The host of an account. -/
def writeHost (account : Account) : Except EncodeError (List Char) :=
  match account.address with
  | none => .error .addressMissing
  | some address =>
    let trimmed := Text.trim address.toList
    match Host.classify trimmed with
    | .ok form => .ok form.render
    | .error defect => .error (.addressIllegal (String.ofList trimmed) defect)

end ConnectionString

/-- The connection string for an account. -/
def Account.encode (account : Account) : Except EncodeError String := do
  let scheme ← ConnectionString.writeScheme account
  let host ← ConnectionString.writeHost account
  return String.ofList <|
    scheme ++ ':' :: '/' :: '/' ::
      (ConnectionString.writeCredentials account.credentials? ++
        (host ++ (ConnectionString.writePort account.port ++
          ConnectionString.writeDomain account.domain)))

/-- The connection string for an account, if it can be written. -/
def Account.encode? (account : Account) : Option String := account.encode.toOption

/-- An account as text: its connection string, or the record when there is none. -/
def Account.text (account : Account) : String := account.encode?.getD account.display

end MailConnection
