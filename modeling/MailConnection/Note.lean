import MailConnection.Text.Quoted

/-!
# Notes

Reading a connection string and looking up a password leave notes for whoever
debugs a configuration: tokens of a scheme that nobody knows, ports that were
filled in, the variable a password came from.  A note is data; whether it is
shown is decided by the console.
-/

namespace MailConnection

/-- Something worth telling while an account is put together. -/
inductive Note where
  | unknownSecurityToken (token : String)
  | unknownCertificateToken (token : String)
  | portInferred (protocol : String) (ssl : Bool) (port : Nat)
  | portUnknown (protocol : String)
  | passwordFound (id variableName : String)
deriving DecidableEq, Repr

namespace Note

/-- The part of the library that a note is attributed to. -/
def origin : Note → String
  | .unknownSecurityToken _ => "mail_hostauth.scheme"
  | .unknownCertificateToken _ => "mail_hostauth.scheme"
  | .portInferred .. => "mail_hostauth.descriptor"
  | .portUnknown _ => "mail_hostauth.descriptor"
  | .passwordFound .. => "mail_hostauth.credentials.env"

/-- The text of a note. -/
def message : Note → String
  | .unknownSecurityToken token =>
    "Ignoring unknown security token in scheme (token=" ++ Text.quotedString token ++ ")"
  | .unknownCertificateToken token =>
    "Ignoring unknown certificate token in scheme (token=" ++ Text.quotedString token ++ ")"
  | .portInferred protocol ssl port =>
    "Inferred default port (protocol=" ++ protocol ++ ", ssl=" ++
      (if ssl then "True" else "False") ++ ", port=" ++ toString port ++ ")"
  | .portUnknown protocol =>
    "No default port for protocol " ++ Text.quotedString protocol ++ "; port left unknown"
  | .passwordFound id variableName =>
    "Password for connection " ++ id ++ " read from " ++ variableName

/-- A note as a line of the log. -/
def line (note : Note) : String := "DEBUG " ++ note.origin ++ ": " ++ note.message ++ "\n"

end Note

end MailConnection
