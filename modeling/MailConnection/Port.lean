/-!
# Default ports

Four mail protocols have known ports, one for plain connections and one for SSL;
TLS runs on the plain port.  A protocol is any text; one that is none of the four
has no default port.
-/

namespace MailConnection

/-- A mail protocol with known ports. -/
inductive MailProtocol where
  | pop3
  | imap
  | eas
  | smtp
deriving DecidableEq, Repr

namespace MailProtocol

/-- The identifier that stands in a scheme. -/
def name : MailProtocol → String
  | .pop3 => "pop3"
  | .imap => "imap"
  | .eas => "eas"
  | .smtp => "smtp"

/-- The protocol with an identifier. -/
def ofName? (s : String) : Option MailProtocol :=
  if s = "pop3" then some .pop3
  else if s = "imap" then some .imap
  else if s = "eas" then some .eas
  else if s = "smtp" then some .smtp
  else none

theorem ofName?_name (p : MailProtocol) : ofName? p.name = some p := by
  cases p <;> rfl

/-- The port for plain connections. -/
def plainPort : MailProtocol → Nat
  | .pop3 => 110
  | .imap => 143
  | .eas => 80
  | .smtp => 587

/-- The port for SSL connections. -/
def sslPort : MailProtocol → Nat
  | .pop3 => 995
  | .imap => 993
  | .eas => 443
  | .smtp => 465

/-- The port for connections with or without SSL. -/
def port (p : MailProtocol) (ssl : Bool) : Nat := if ssl then p.sslPort else p.plainPort

end MailProtocol

/-- The default port of a protocol identifier, if it is one of the known ones. -/
def defaultPort? (protocol : String) (ssl : Bool) : Option Nat :=
  (MailProtocol.ofName? protocol).map fun p => p.port ssl

theorem defaultPort?_lt {protocol : String} {ssl : Bool} {n : Nat}
    (h : defaultPort? protocol ssl = some n) : n < 1000 := by
  obtain ⟨p, _, rfl⟩ := Option.map_eq_some_iff.mp h
  cases p <;> cases ssl <;> decide

end MailConnection
