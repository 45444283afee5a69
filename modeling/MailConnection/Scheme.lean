import MailConnection.Note
import MailConnection.Security
import MailConnection.Text.Split

/-!
# Schemes

A scheme is a protocol and, after plus signs, a security token and a certificate
token: `imap`, `imap+ssl+`, `smtp+tls+trustallcerts`.

Writing knows four suffixes, one for each of SSL and TLS with and without trust
in all certificates; every other choice has none.  Reading takes the segments
apart and heeds the tokens it knows, so that foreign schemes are read as
unsecured ones.  `mode_encode` says what of a choice survives.
-/

namespace MailConnection.Scheme

/-! ## Writing -/

/-- The suffix for a security mode.  Only exact combinations have one. -/
def suffix : SecurityMode → String
  | ⟨true, false, false⟩ => "+ssl+"
  | ⟨true, false, true⟩ => "+ssl+trustallcerts"
  | ⟨false, true, false⟩ => "+tls+"
  | ⟨false, true, true⟩ => "+tls+trustallcerts"
  | _ => ""

/-- The scheme for a protocol and a security mode. -/
def encode (protocol : String) (mode : SecurityMode) : String := protocol ++ suffix mode

/-! ## Reading -/

/-- The protocol of a scheme: the text before the first plus sign. -/
def protocol (scheme : String) : String :=
  String.ofList (Text.before '+' scheme.toList)

theorem plus_not_mem_protocol (scheme : String) : '+' ∉ (protocol scheme).toList := by
  rw [protocol, String.toList_ofList]
  exact Text.not_mem_before '+' scheme.toList

/-- The second segment of a scheme, if there is one. -/
def securityToken? (scheme : String) : Option String :=
  (Text.after? '+' scheme.toList).map fun rest => String.ofList (Text.before '+' rest)

/-- The third segment of a scheme, if there is one. -/
def certificateToken? (scheme : String) : Option String := do
  let rest ← Text.after? '+' scheme.toList
  let rest ← Text.after? '+' rest
  return String.ofList (Text.before '+' rest)

/-- The security mode that a scheme names.  Unknown tokens are passed over. -/
def mode (scheme : String) : SecurityMode where
  ssl := securityToken? scheme == some "ssl"
  tls := securityToken? scheme == some "tls"
  trustAll := certificateToken? scheme == some "trustallcerts"

/-- Notes on the tokens of a scheme that are passed over. -/
def notes (scheme : String) : List Note :=
  (match securityToken? scheme with
    | some token =>
      if token = "ssl" ∨ token = "tls" ∨ token = "" then [] else [.unknownSecurityToken token]
    | none => []) ++
  (match certificateToken? scheme with
    | some token =>
      if token = "trustallcerts" ∨ token = "" then [] else [.unknownCertificateToken token]
    | none => [])

/-! ## What survives -/

/-- A security mode as it comes back from a scheme. -/
def normalMode (mode : SecurityMode) : SecurityMode :=
  if mode.ssl = mode.tls then SecurityMode.none else mode

theorem toList_encode (protocol : String) (mode : SecurityMode) :
    (encode protocol mode).toList = protocol.toList ++ (suffix mode).toList := by
  rw [encode, String.toList_append]

/-- What follows the protocol in a scheme with this suffix. -/
private theorem suffix_cases (mode : SecurityMode) :
    (suffix mode).toList = [] ∧ normalMode mode = SecurityMode.none ∨
      ∃ security certificate : String,
        (suffix mode).toList = '+' :: (security.toList ++ '+' :: certificate.toList) ∧
        '+' ∉ security.toList ∧ '+' ∉ certificate.toList ∧
        normalMode mode =
          ⟨some security == some "ssl", some security == some "tls",
            some certificate == some "trustallcerts"⟩ := by
  obtain ⟨ssl, tls, trustAll⟩ := mode
  cases ssl <;> cases tls <;> cases trustAll
  · exact .inl ⟨rfl, rfl⟩
  · exact .inl ⟨rfl, rfl⟩
  · exact .inr ⟨"tls", "", by decide, by decide, by decide, by decide⟩
  · exact .inr ⟨"tls", "trustallcerts", by decide, by decide, by decide, by decide⟩
  · exact .inr ⟨"ssl", "", by decide, by decide, by decide, by decide⟩
  · exact .inr ⟨"ssl", "trustallcerts", by decide, by decide, by decide, by decide⟩
  · exact .inl ⟨rfl, rfl⟩
  · exact .inl ⟨rfl, rfl⟩

theorem protocol_encode {p : String} (hp : '+' ∉ p.toList) (m : SecurityMode) :
    protocol (encode p m) = p := by
  rw [protocol, toList_encode]
  rcases suffix_cases m with ⟨hs, _⟩ | ⟨security, certificate, hs, _⟩
  · rw [hs, List.append_nil, Text.before_of_not_mem hp, String.ofList_toList]
  · rw [hs, Text.before_append_cons hp, String.ofList_toList]

/-- **The mode read from a written scheme** is the mode it was written for if that
has exactly one of SSL and TLS, and no security otherwise. -/
theorem mode_encode {p : String} (hp : '+' ∉ p.toList) (m : SecurityMode) :
    mode (encode p m) = normalMode m := by
  rcases suffix_cases m with ⟨hs, hm⟩ | ⟨security, certificate, hs, hsec, hcert, hm⟩
  · have hlist : (encode p m).toList = p.toList := by rw [toList_encode, hs, List.append_nil]
    rw [hm, mode, securityToken?, certificateToken?, hlist, Text.after?_of_not_mem hp]
    rfl
  · have hlist : (encode p m).toList =
        p.toList ++ '+' :: (security.toList ++ '+' :: certificate.toList) := by
      rw [toList_encode, hs]
    rw [hm, mode, securityToken?, certificateToken?, hlist, Text.after?_append_cons hp]
    simp [Text.before_append_cons hsec, Text.after?_append_cons hsec,
      Text.before_of_not_mem hcert]

end MailConnection.Scheme
