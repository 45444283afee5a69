import MailConnection.Proofs.ConnectionString.Writing

/-!
# Escaped text between its marks

In a connection string a login, a password and a path are escaped, each with marks of its own
that stay as they are (`Place`).  What is written for a text is `Faithful` to it: it holds none
of the characters that would end it too early, it is spelled with plain characters and with
escapes in capitals only (`Spelled`), and its escapes are read back as the text.

The main statement, `encode_faithful`, says this of every text, that the connection string of an
account is made of such pieces, and that the reader of connection strings makes the texts out of
them again.
-/

namespace MailConnection

/-! ## Spelling -/

namespace Text.Percent

/-- A hexadecimal digit as it is written in an escape. -/
def isCapitalHexDigit (c : Char) : Bool := c.isDigit || ('A' ≤ c && c ≤ 'F')

/-- Text that consists of plain characters, and of escapes: `%` and two hexadecimal digits, the
letters among them capital. -/
inductive Spelled (plain : Char → Prop) : List Char → Prop
  | nil : Spelled plain []
  | plain {c : Char} {rest : List Char} (hc : plain c) (hrest : Spelled plain rest) :
      Spelled plain (c :: rest)
  | escape {high low : Char} {rest : List Char} (hhigh : isCapitalHexDigit high = true)
      (hlow : isCapitalHexDigit low = true) (hrest : Spelled plain rest) :
      Spelled plain ('%' :: high :: low :: rest)

section
variable {plain : Char → Prop}

theorem Spelled.append {left right : List Char} (hleft : Spelled plain left)
    (hright : Spelled plain right) : Spelled plain (left ++ right) := by
  induction hleft with
  | nil => exact hright
  | plain hc _ ih => exact .plain hc ih
  | escape hhigh hlow _ ih => exact .escape hhigh hlow ih

theorem isCapitalHexDigit_upperHexDigit {n : Nat} (h : n < 16) :
    isCapitalHexDigit (upperHexDigit n) = true := by
  have hall : ∀ m : Fin 16, isCapitalHexDigit (upperHexDigit m) = true := by decide
  exact hall ⟨n, h⟩

theorem spelled_escapeOctet (b : Nat) : Spelled plain (escapeOctet b) :=
  .escape (isCapitalHexDigit_upperHexDigit (Nat.mod_lt _ (by decide)))
    (isCapitalHexDigit_upperHexDigit (Nat.mod_lt _ (by decide))) .nil

theorem spelled_flatMap_escapeOctet (octets : List Nat) :
    Spelled plain (octets.flatMap escapeOctet) := by
  induction octets with
  | nil => exact .nil
  | cons b rest ih => exact (spelled_escapeOctet b).append ih

/-- Whatever a text holds, it is spelled with its safe characters and escapes. -/
theorem spelled_escape {safe : Char → Bool} (hsafe : ∀ c, safe c = true → plain c)
    (cs : List Char) : Spelled plain (escape safe cs) := by
  induction cs with
  | nil => exact .nil
  | cons c rest ih =>
    have hchar : Spelled plain (escapeChar safe c) := by
      unfold escapeChar
      split
      · rename_i hc
        exact .plain (hsafe c hc) .nil
      · exact spelled_flatMap_escapeOctet _
    exact hchar.append ih

end

end Text.Percent

namespace ConnectionString

open Text.Percent (Spelled escape unescape)

/-! ## Places -/

/-- Where text is escaped in a connection string. -/
inductive Place where
  | login
  | password
  | path
deriving DecidableEq, Repr

namespace Place

/-- The marks that stay as they are. -/
def marks : Place → List Char
  | login => ['!', '*', '\'', '(', ')', ';', '&', '=', '+', '$', ',']
  | password => ['!', '*', '\'', '(', ')', ';', ':', '&', '=', '+', '$', ',']
  | path => ['!', '*', '\'', '(', ')', ';', ':', '@', '&', '=', '+', '$', ',', '/']

/-- The characters that would end the text, or be taken for a part of the host. -/
def delimiters : Place → List Char
  | login => [':', '@', '/', '?', '#', '[', ']']
  | password => ['@', '/', '?', '#', '[', ']']
  | path => ['?', '#']

/-- The characters that stay as they are: ASCII letters and digits, four marks that are plain
everywhere, and the marks of the place. -/
def Plain (place : Place) (c : Char) : Prop :=
  c.isAlphanum = true ∨ c ∈ ['_', '.', '-', '~'] ∨ c ∈ place.marks

/-- The safe set with which the text in a place is escaped. -/
def safe : Place → Char → Bool
  | login => loginSafe
  | password => passwordSafe
  | path => domainSafe

/-- A text as it is written in a place. -/
def write (place : Place) (text : List Char) : List Char := escape place.safe text

/-- What is written stays inside its place and means the text. -/
structure Faithful (place : Place) (text written : List Char) : Prop where
  confined : ∀ d ∈ place.delimiters, d ∉ written
  spelled : Spelled place.Plain written
  unescape_eq : unescape written = text

theorem plain_of_safe {place : Place} {c : Char} (h : place.safe c = true) : place.Plain c := by
  cases place <;>
    simp only [safe, loginSafe, passwordSafe, domainSafe, Text.Percent.isUnreserved,
      List.contains_eq_mem, List.mem_cons, List.not_mem_nil, or_false, Bool.or_eq_true,
      beq_iff_eq, decide_eq_true_eq, Plain, marks] at h ⊢ <;>
    grind

/-- A delimiter of a place is escaped there, and no escape brings it in. -/
theorem escaped_of_mem_delimiters {place : Place} {d : Char} (h : d ∈ place.delimiters) :
    d.isAlphanum = false ∧ d ≠ '%' ∧ place.safe d = false := by
  have hall : place.delimiters.all (fun d => !d.isAlphanum && d != '%' && !place.safe d) =
      true := by
    cases place <;> rfl
  have hd := List.all_eq_true.mp hall d h
  simpa [and_assoc] using hd

theorem safe_percent (place : Place) : place.safe '%' = false := by
  cases place <;> rfl

/-- **What is written for a text is faithful to it,** whatever characters it holds. -/
theorem faithful_write (place : Place) (text : List Char) :
    place.Faithful text (place.write text) where
  confined := by
    intro d hd
    obtain ⟨halnum, hpercent, hsafe⟩ := escaped_of_mem_delimiters hd
    exact Text.Percent.not_mem_escape halnum hpercent fun _ => hsafe
  spelled := Text.Percent.spelled_escape (fun _ => plain_of_safe) text
  unescape_eq := Text.Percent.unescape_escape place.safe_percent text

end Place

/-! ## Pieces of a connection string -/

/-- The user info that credentials are written as. -/
def UserInfo.ofCredentials (login password : String) : UserInfo where
  login := Place.login.write login.toList
  password := some (Place.password.write password.toList)

/-- The path that a domain is written as. -/
def pathOfDomain : Option String → List Char
  | none => []
  | some domain => Place.path.write ('/' :: domain.toList)

theorem writeDomain_eq (domain : Option String) : writeDomain domain = pathOfDomain domain := by
  cases domain <;> rfl

/-- Credentials are read from the user info that they are written as. -/
theorem readCredentials_ofCredentials (login password : String) :
    readCredentials (UserInfo.ofCredentials login password).text = (some login, some password) := by
  have hlogin := Place.login.faithful_write login.toList
  have hpassword := Place.password.faithful_write password.toList
  have hcolon : ':' ∉ Place.login.write login.toList := hlogin.confined ':' (by decide)
  have hne : (UserInfo.ofCredentials login password).text ≠ [] := by
    simp [UserInfo.text, UserInfo.ofCredentials, marked]
  rw [readCredentials, if_neg hne]
  simp only [UserInfo.text, UserInfo.ofCredentials, before_append_marked hcolon,
    after?_append_marked hcolon, hlogin.unescape_eq, hpassword.unescape_eq, String.ofList_toList,
    Option.map_some]

/-- A domain is read from the path that it is written as. -/
theorem readDomain_pathOfDomain (domain : Option String) :
    readDomain (pathOfDomain domain) = domain := by
  cases domain with
  | none => rfl
  | some text =>
    have hslash : pathOfDomain (some text) = '/' :: Place.path.write text.toList := rfl
    rw [hslash, readDomain, (Place.path.faithful_write text.toList).unescape_eq,
      String.ofList_toList]

/-- **Escaping is faithful in every place of a connection string.**  What is written for a text
holds no delimiter of its place, is spelled with plain characters and capital escapes, and is
read back as the text.  A connection string is made of such pieces, and credentials and domain
are made out of them again. -/
theorem encode_faithful :
    (∀ (place : Place) (text : List Char), place.Faithful text (place.write text)) ∧
    (∀ (account : Account) (t : String), account.encode = .ok t →
      ∃ r : Reading, r.text = t.toList ∧ r.scheme.all inScheme = true ∧
        r.userInfo = account.credentials?.map (fun (login, password) =>
          UserInfo.ofCredentials login password) ∧
        r.path = pathOfDomain account.domain ∧ r.query = none ∧ r.fragment = none) ∧
    (∀ login password : String,
      readCredentials (UserInfo.ofCredentials login password).text =
        (some login, some password)) ∧
    ∀ domain : Option String, readDomain (pathOfDomain domain) = domain := by
  refine ⟨Place.faithful_write, fun account t hencode => ?_, readCredentials_ofCredentials,
    readDomain_pathOfDomain⟩
  obtain ⟨protocol, _, form, _, _, hscheme, _, htext⟩ := encode_eq_ok hencode
  refine ⟨account.reading protocol form, htext, ?_, rfl, writeDomain_eq account.domain, rfl, rfl⟩
  rw [scheme_reading]
  exact all_inScheme hscheme

/-- An account whose texts hold delimiters, escapes whole and broken, and characters of one to
four octets. -/
def crowded : Account where
  id := none
  protocol := some "imap"
  address := some "h"
  port := -1
  flags := ⟨⟨false, false, false⟩, true, 0⟩
  login := some " %41:é@ "
  password := some "p:/€😀%z"
  domain := some "/a?%2F"

theorem encode_faithful_crowded :
    crowded.encode = .ok "imap://%2541%3A%C3%A9%40:p:%2F%E2%82%AC%F0%9F%98%80%25z@h//a%3F%252F" ∧
    (∃ r : Reading,
      r.text = "imap://%2541%3A%C3%A9%40:p:%2F%E2%82%AC%F0%9F%98%80%25z@h//a%3F%252F".toList ∧
      r.userInfo = some (.ofCredentials "%41:é@" "p:/€😀%z") ∧
      r.path = "//a%3F%252F".toList) ∧
    Place.login.Faithful "%41:é@".toList "%2541%3A%C3%A9%40".toList := by
  have hencode : crowded.encode =
      .ok "imap://%2541%3A%C3%A9%40:p:%2F%E2%82%AC%F0%9F%98%80%25z@h//a%3F%252F" := rfl
  have hlogin : Place.login.write "%41:é@".toList = "%2541%3A%C3%A9%40".toList := by decide
  have hdomain : pathOfDomain crowded.domain = "//a%3F%252F".toList := by decide
  obtain ⟨hfaithful, hpieces, _⟩ := encode_faithful
  obtain ⟨r, htext, _, hinfo, hpath, _⟩ := hpieces crowded _ hencode
  refine ⟨hencode, ⟨r, htext, hinfo, hpath.trans hdomain⟩, ?_⟩
  rw [← hlogin]
  exact hfaithful .login _

end ConnectionString

end MailConnection
