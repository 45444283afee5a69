import MailConnection.ConnectionString.Decode

/-!
# The grammar of connection strings

A `Reading` takes a connection string apart down to the last part:

```text
protocol[+tokens]://[login[:password]@]host[:digits]path[?query][#fragment]
```

`Reading.text` writes the parts one after another, `Reading.Legal` says which
characters each of them may hold, and `Reading.account` says which account they
describe.  None of the three looks for a separator: that is left to `decode`, and
this file shows that it finds the right ones.

* `eq_of_text_eq`: a text has at most one legal reading.
* `decode_of_reading`: a text with a legal reading is read as its account, unless
  its port has too many digits.
* `exists_reading_of_decode`: whatever is not refused for its form has a legal
  reading.

`decode_eq_ok_iff_reading` puts them together.
-/

namespace MailConnection.ConnectionString

/-! ## Readings -/

/-- User info as it is written: a login and, after the first colon, a password. -/
structure UserInfo where
  login : List Char
  password : Option (List Char)
deriving DecidableEq, Repr

/-- User info as one text. -/
def UserInfo.text (info : UserInfo) : List Char := info.login ++ marked ':' info.password

/-- A host as it is written, in brackets or as it stands. -/
inductive HostText where
  | bracketed (inside : List Char)
  | plain (text : List Char)
deriving DecidableEq, Repr

namespace HostText

/-- A host as one text. -/
def text : HostText → List Char
  | .bracketed inside => '[' :: (inside ++ [']'])
  | .plain text => text

/-- The address that a host names.  Escapes count in brackets only. -/
def address : HostText → List Char
  | .bracketed inside => Text.Percent.unescape inside
  | .plain text => text

/-- The characters that would end the host too early are not in it. -/
def Legal : HostText → Prop
  | .bracketed inside => ']' ∉ inside
  | .plain text => ':' ∉ text ∧ text.head? ≠ some '['

end HostText

/-- All parts of a connection string, as they are written. -/
structure Reading where
  protocol : List Char
  tokens : Option (List Char)
  userInfo : Option UserInfo
  host : HostText
  digits : Option (List Char)
  path : List Char
  query : Option (List Char)
  fragment : Option (List Char)
deriving DecidableEq, Repr

namespace Reading

/-- The scheme: the protocol and the tokens after the first plus sign. -/
def scheme (r : Reading) : List Char := r.protocol ++ marked '+' r.tokens

/-- The host and the port. -/
def endpoint (r : Reading) : List Char := r.host.text ++ marked ':' r.digits

/-- The user info, an `@`, and the endpoint. -/
def authority (r : Reading) : List Char :=
  match r.userInfo with
  | none => r.endpoint
  | some info => info.text ++ '@' :: r.endpoint

/-- The five parts that a connection string is split into first. -/
def parts (r : Reading) : Parts where
  scheme := r.scheme
  authority := r.authority
  path := r.path
  query := r.query
  fragment := r.fragment

/-- The connection string. -/
def text (r : Reading) : List Char := r.parts.text

/-- Every part holds characters of its own only, and no separator stands in a part
that it would end. -/
structure Legal (r : Reading) : Prop where
  parts : r.parts.Legal
  protocol : '+' ∉ r.protocol
  userInfo : ∀ info, r.userInfo = some info → ':' ∉ info.login
  endpoint : '@' ∉ r.endpoint
  host : r.host.Legal
  digits : ∀ ds, r.digits = some ds → ds.all Char.isDigit

end Reading

/-! ## What a reading says -/

/-- The port that is meant where none is given: the default of the protocol, if it has
one. -/
def inferredPort (protocol : String) (ssl : Bool) : Int :=
  match defaultPort? protocol ssl with
  | some known => known
  | none => unknownPort

namespace Reading

/-- The number of digits of the port. -/
def digitCount (r : Reading) : Nat := (r.digits.getD []).length

/-- The security mode that the tokens name. -/
def mode (r : Reading) : SecurityMode := Scheme.mode (String.ofList r.scheme)

/-- The login; empty user info names none. -/
def login (r : Reading) : Option String :=
  match r.userInfo with
  | none => none
  | some info =>
    if info.text = [] then none else some (String.ofList (Text.Percent.unescape info.login))

/-- The password, which is there when a colon stands in the user info. -/
def password (r : Reading) : Option String :=
  match r.userInfo with
  | none => none
  | some info => info.password.map fun cs => String.ofList (Text.Percent.unescape cs)

/-- The port: the number that the digits name, or the inferred one where there are none. -/
def port (r : Reading) : Int :=
  match r.digits with
  | some (d :: ds) => Text.numeralValue (d :: ds)
  | _ => inferredPort (String.ofList r.protocol) r.mode.ssl

/-- The domain: the path after its first slash. -/
def domain (r : Reading) : Option String :=
  match r.path with
  | [] => none
  | _ :: rest => some (String.ofList (Text.Percent.unescape rest))

/-- The account that a connection string with these parts describes. -/
def account (r : Reading) : Account where
  id := none
  protocol := some (String.ofList r.protocol)
  address := some (String.ofList r.host.address)
  port := r.port
  flags := ⟨r.mode, r.login.isSome, 0⟩
  login := r.login
  password := r.password
  domain := r.domain

end Reading

/-! ## Cutting at a mark -/

theorem before_append_marked {mark : Char} {left : List Char} (h : mark ∉ left)
    (right : Option (List Char)) : Text.before mark (left ++ marked mark right) = left := by
  cases right with
  | none => rw [marked, List.append_nil, Text.before_of_not_mem h]
  | some cs => exact Text.before_append_cons h cs

theorem after?_append_marked {mark : Char} {left : List Char} (h : mark ∉ left)
    (right : Option (List Char)) : Text.after? mark (left ++ marked mark right) = right := by
  cases right with
  | none => rw [marked, List.append_nil, Text.after?_of_not_mem h]
  | some cs => exact Text.after?_append_cons h cs

theorem before_append_marked_after (mark : Char) (cs : List Char) :
    Text.before mark cs ++ marked mark (Text.after? mark cs) = cs := by
  cases hafter : Text.after? mark cs with
  | none =>
    have hmem := Text.after?_eq_none_iff.mp hafter
    rw [marked, List.append_nil, Text.before_of_not_mem hmem]
  | some rest => exact Text.before_append_after hafter

theorem append_marked_inj {mark : Char} {left left' : List Char} {right right' : Option (List Char)}
    (h : mark ∉ left) (h' : mark ∉ left')
    (heq : left ++ marked mark right = left' ++ marked mark right') :
    left = left' ∧ right = right' := by
  have hbefore := congrArg (Text.before mark) heq
  have hafter := congrArg (Text.after? mark) heq
  rw [before_append_marked h, before_append_marked h'] at hbefore
  rw [after?_append_marked h, after?_append_marked h'] at hafter
  exact ⟨hbefore, hafter⟩

theorem marked_inj {mark : Char} {right right' : Option (List Char)}
    (heq : marked mark right = marked mark right') : right = right' := by
  have hempty : mark ∉ ([] : List Char) := by simp
  exact (append_marked_inj hempty hempty heq).2

/-! ## The authority -/

theorem HostText.text_bracketed_append (inside rest : List Char) :
    (HostText.bracketed inside).text ++ rest = '[' :: (inside ++ ']' :: rest) := by
  simp [HostText.text]

theorem HostText.head?_plain_append {text : List Char} (h : (HostText.plain text).Legal)
    (digits : Option (List Char)) : (text ++ marked ':' digits).head? ≠ some '[' := by
  obtain ⟨_, hhead⟩ := h
  cases text with
  | nil => cases digits <;> simp [marked]
  | cons c rest => simpa using hhead

/-- A legal host and the port after it are found where they stand. -/
theorem read_host_append {host : HostText} (h : host.Legal) (digits : Option (List Char)) :
    Endpoint.read (host.text ++ marked ':' digits) =
      (readPort (digits.getD [])).map fun port => ⟨host.address, port⟩ := by
  cases host with
  | bracketed inside =>
    have hinside : ']' ∉ inside := h
    rw [HostText.text_bracketed_append]
    simp only [Endpoint.read, Text.after?_append_cons hinside, Text.before_append_cons hinside]
    cases digits <;> rfl
  | plain text =>
    have hhead := HostText.head?_plain_append h digits
    have hcolon : ':' ∉ text := h.1
    simp only [HostText.text]
    unfold Endpoint.read
    split
    · rename_i rest hrest
      exact absurd (by rw [hrest]; rfl) hhead
    · rw [after?_append_marked hcolon, before_append_marked hcolon]
      rfl

namespace Reading

variable {r : Reading}

theorem afterLast_authority (h : r.Legal) : Text.afterLast '@' r.authority = r.endpoint := by
  unfold authority
  cases r.userInfo with
  | none => exact Text.afterLast_of_not_mem h.endpoint
  | some info => exact Text.afterLast_append_cons h.endpoint info.text

theorem beforeLast_authority (h : r.Legal) :
    Text.beforeLast '@' r.authority = (r.userInfo.map UserInfo.text).getD [] := by
  unfold authority
  cases r.userInfo with
  | none => exact Text.beforeLast_of_not_mem h.endpoint
  | some info => exact Text.beforeLast_append_cons h.endpoint info.text

theorem read_endpoint (h : r.Legal) :
    Endpoint.read r.endpoint =
      (readPort (r.digits.getD [])).map fun port => ⟨r.host.address, port⟩ :=
  read_host_append h.host r.digits

theorem readCredentials_userInfo (h : r.Legal) :
    readCredentials ((r.userInfo.map UserInfo.text).getD []) = (r.login, r.password) := by
  unfold readCredentials login password
  cases hinfo : r.userInfo with
  | none => rfl
  | some info =>
    have hcolon := h.userInfo info hinfo
    simp only [Option.map_some, Option.getD_some]
    by_cases hempty : info.text = []
    · have hpassword : info.password = none := by
        cases hp : info.password with
        | none => rfl
        | some cs => simp [UserInfo.text, hp, marked] at hempty
      simp [hempty, hpassword]
    · simp only [if_neg hempty]
      rw [UserInfo.text, before_append_marked hcolon, after?_append_marked hcolon]

/-- What the parts of a legal reading say, up to the port, which may be too long. -/
theorem content_parts (h : r.Legal) :
    r.parts.content = (readPort (r.digits.getD [])).map fun port =>
      { scheme := String.ofList r.scheme
        endpoint := ⟨r.host.address, port⟩
        login := r.login
        password := r.password
        domain := r.domain } := by
  have hcredentials := readCredentials_userInfo h
  rw [← beforeLast_authority h] at hcredentials
  have hendpoint := read_endpoint h
  rw [← afterLast_authority h] at hendpoint
  simp only [Parts.content, Reading.parts, hendpoint, hcredentials]
  cases readPort (r.digits.getD []) <;> rfl

/-! ## Reading legal text -/

/-- The number that the digits of the port name, if there are any. -/
def portNumber? (r : Reading) : Option Nat :=
  match r.digits with
  | some (d :: ds) => some (Text.numeralValue (d :: ds))
  | _ => none

theorem readPort_digits (h : r.Legal) :
    readPort (r.digits.getD []) =
      if Text.maxNumeralLength < r.digitCount then .error (.portTooLong r.digitCount)
      else .ok r.portNumber? := by
  unfold digitCount portNumber?
  cases hdigits : r.digits with
  | none => rfl
  | some ds =>
    have hall := h.digits ds hdigits
    cases ds with
    | nil => rfl
    | cons d rest =>
      simp only [Option.getD_some, readPort, if_neg (List.cons_ne_nil d rest), hall, Bool.not_true]
      rfl

theorem port_eq_resolvePort (r : Reading) :
    r.port = Account.resolvePort (String.ofList r.protocol) r.mode.ssl
      (match r.portNumber? with
        | none => unknownPort
        | some n => n) := by
  unfold port portNumber? inferredPort
  cases hdigits : r.digits with
  | none => rfl
  | some ds =>
    cases ds with
    | nil => rfl
    | cons d rest =>
      have hne : (Text.numeralValue (d :: rest) : Int) ≠ unknownPort := by
        unfold unknownPort
        omega
      simp only [Account.resolvePort, if_neg hne]

theorem protocol_scheme (h : r.Legal) :
    Scheme.protocol (String.ofList r.scheme) = String.ofList r.protocol := by
  rw [Scheme.protocol, String.toList_ofList, scheme, before_append_marked h.protocol]

/-- **Legal text is read as what it says.**  Only a port that is too long stands in the
way. -/
theorem decode_of_reading {s : String} (h : r.Legal) (htext : r.text = s.toList) :
    decode s =
      if Text.maxNumeralLength < r.digitCount then .error (.portTooLong r.digitCount)
      else .ok r.account := by
  have hsplit : split? s.toList = some r.parts := split?_eq_some_iff.mpr ⟨htext.symm, h.parts⟩
  have hprotocol := protocol_scheme h
  have hport := port_eq_resolvePort r
  simp only [decode, Account.apply, read, hsplit, content_parts h, readPort_digits h]
  split
  · rfl
  · simp only [Except.map, Content.applyTo, Account.setConnection, Account.setScheme,
      Account.setPort, Account.setLogin, hprotocol, Except.ok.injEq]
    rw [account, hport]
    rfl

theorem decode_eq_account {s : String} (h : r.Legal) (htext : r.text = s.toList)
    (hlength : r.digitCount ≤ Text.maxNumeralLength) : decode s = .ok r.account := by
  rw [decode_of_reading h htext, if_neg (Nat.not_lt.mpr hlength)]

end Reading

/-! ## One reading -/

theorem HostText.eq_of_endpoint_eq {host host' : HostText} {digits digits' : Option (List Char)}
    (h : host.Legal) (h' : host'.Legal)
    (heq : host.text ++ marked ':' digits = host'.text ++ marked ':' digits') :
    host = host' ∧ digits = digits' := by
  cases host with
  | bracketed inside =>
    cases host' with
    | bracketed inside' =>
      rw [text_bracketed_append, text_bracketed_append, List.cons.injEq] at heq
      -- the first bracket ends both hosts
      have hcut : inside ++ marked ']' (some (marked ':' digits)) =
          inside' ++ marked ']' (some (marked ':' digits')) := heq.2
      obtain ⟨hinside, htail⟩ := append_marked_inj h h' hcut
      have hdigits : digits = digits' := marked_inj (Option.some.inj htail)
      exact ⟨by rw [hinside], hdigits⟩
    | plain text' =>
      rw [text_bracketed_append] at heq
      exact absurd (congrArg List.head? heq).symm (head?_plain_append h' digits')
  | plain text =>
    cases host' with
    | bracketed inside' =>
      rw [text_bracketed_append] at heq
      exact absurd (congrArg List.head? heq) (head?_plain_append h digits)
    | plain text' =>
      obtain ⟨htext, hdigits⟩ := append_marked_inj h.1 h'.1 heq
      exact ⟨by rw [htext], hdigits⟩

namespace Reading

theorem userInfo_eq_of_authority_eq {r r' : Reading} (h : r.Legal) (h' : r'.Legal)
    (heq : r.authority = r'.authority) : r.userInfo = r'.userInfo := by
  have hmem : '@' ∈ r.authority ↔ '@' ∈ r'.authority := by rw [heq]
  have hbefore := congrArg (Text.beforeLast '@') heq
  rw [beforeLast_authority h, beforeLast_authority h'] at hbefore
  cases hinfo : r.userInfo with
  | none =>
    cases hinfo' : r'.userInfo with
    | none => rfl
    | some info' => simp [authority, hinfo, hinfo', h.endpoint] at hmem
  | some info =>
    cases hinfo' : r'.userInfo with
    | none => simp [authority, hinfo, hinfo', h'.endpoint] at hmem
    | some info' =>
      simp only [hinfo, hinfo', Option.map_some, Option.getD_some] at hbefore
      obtain ⟨hlogin, hpassword⟩ :=
        append_marked_inj (h.userInfo info hinfo) (h'.userInfo info' hinfo') hbefore
      obtain ⟨login, password⟩ := info
      obtain ⟨login', password'⟩ := info'
      simp_all

/-- **A text has at most one legal reading.** -/
theorem eq_of_text_eq {r r' : Reading} (h : r.Legal) (h' : r'.Legal) (htext : r.text = r'.text) :
    r = r' := by
  have hparts : r.parts = r'.parts := by
    have hsplit := split?_eq_some_iff.mpr ⟨rfl, h.parts⟩
    have hsplit' := split?_eq_some_iff.mpr ⟨htext, h'.parts⟩
    exact Option.some.inj (hsplit.symm.trans hsplit')
  have hscheme : r.scheme = r'.scheme := congrArg Parts.scheme hparts
  have hauthority : r.authority = r'.authority := congrArg Parts.authority hparts
  have hendpoint : r.endpoint = r'.endpoint := by
    rw [← afterLast_authority h, ← afterLast_authority h', hauthority]
  -- the parts agree, and so does what each of them is made of
  obtain ⟨hprotocol, htokens⟩ := append_marked_inj h.protocol h'.protocol hscheme
  obtain ⟨hhost, hdigits⟩ := HostText.eq_of_endpoint_eq h.host h'.host hendpoint
  have huser := userInfo_eq_of_authority_eq h h' hauthority
  have hpath : r.path = r'.path := congrArg Parts.path hparts
  have hquery : r.query = r'.query := congrArg Parts.query hparts
  have hfragment : r.fragment = r'.fragment := congrArg Parts.fragment hparts
  obtain ⟨protocol, tokens, userInfo, host, digits, path, query, fragment⟩ := r
  simp_all

end Reading

/-! ## Every accepted text is legal -/

theorem all_isDigit_of_readPort {cs : List Char}
    (h : ∀ e, readPort cs = .error e → e.isSizeError = true) : cs.all Char.isDigit = true := by
  cases hall : cs.all Char.isDigit with
  | true => rfl
  | false =>
    have hne : cs ≠ [] := by
      rintro rfl
      exact absurd hall (by decide)
    have hread : readPort cs = .error (.portNotNumber (String.ofList cs)) := by
      simp [readPort, hne, hall]
    exact absurd (h _ hread) Bool.false_ne_true

/-- An endpoint that is not refused for its form is a legal host with a port of digits. -/
theorem exists_host_of_read {cs : List Char}
    (h : ∀ e, Endpoint.read cs = .error e → e.isSizeError = true) :
    ∃ (host : HostText) (digits : Option (List Char)), host.Legal ∧
      (∀ ds, digits = some ds → ds.all Char.isDigit = true) ∧
      host.text ++ marked ':' digits = cs := by
  revert h
  fun_cases Endpoint.read cs with
  | case1 | case4 => exact fun h => absurd (h _ rfl) Bool.false_ne_true
  | case2 rest _ hafter =>
    intro _
    refine ⟨.bracketed (Text.before ']' rest), none, Text.not_mem_before ']' rest, by simp, ?_⟩
    rw [HostText.text_bracketed_append]
    exact congrArg _ (Text.before_append_after hafter)
  | case3 rest _ digits hafter =>
    intro h
    have hdigits : digits.all Char.isDigit = true :=
      all_isDigit_of_readPort fun e he => h e (by rw [he]; rfl)
    refine ⟨.bracketed (Text.before ']' rest), some digits, Text.not_mem_before ']' rest,
      by simpa using hdigits, ?_⟩
    rw [HostText.text_bracketed_append]
    exact congrArg _ (Text.before_append_after hafter)
  | case5 _ hbracket =>
    -- the host stands for itself
    intro h
    have hdigits : ((Text.after? ':' cs).getD []).all Char.isDigit = true :=
      all_isDigit_of_readPort fun e he => h e (by rw [he]; rfl)
    have hcs := before_append_marked_after ':' cs
    refine ⟨.plain (Text.before ':' cs), Text.after? ':' cs,
      ⟨Text.not_mem_before ':' cs, ?_⟩, ?_, hcs⟩
    · intro hhead
      obtain ⟨rest, hrest⟩ := List.head?_eq_some_iff.mp hhead
      rw [hrest] at hcs
      exact hbracket _ hcs.symm
    · intro ds hds
      rwa [hds] at hdigits

/-- The user info before the last `@`, taken apart. -/
theorem exists_userInfo (authority : List Char) :
    ∃ userInfo : Option UserInfo, (∀ info, userInfo = some info → ':' ∉ info.login) ∧
      authority = match userInfo with
        | none => Text.afterLast '@' authority
        | some info => info.text ++ '@' :: Text.afterLast '@' authority := by
  by_cases hmem : '@' ∈ authority
  · refine ⟨some ⟨Text.before ':' (Text.beforeLast '@' authority),
      Text.after? ':' (Text.beforeLast '@' authority)⟩, ?_, ?_⟩
    · rintro info ⟨⟩
      exact Text.not_mem_before ':' _
    · simp only [UserInfo.text]
      rw [before_append_marked_after, Text.beforeLast_append_afterLast hmem]
  · exact ⟨none, by simp, (Text.afterLast_of_not_mem hmem).symm⟩

/-- Whatever is not refused for its form has a legal reading. -/
theorem exists_reading_of_decode {s : String}
    (h : ∀ e, decode s = .error e → e.isSizeError = true) :
    ∃ r : Reading, r.Legal ∧ r.text = s.toList := by
  cases hsplit : split? s.toList with
  | none =>
    have hdecode : decode s = .error .malformed := by
      simp only [decode, Account.apply, read, hsplit]
      rfl
    exact absurd (h _ hdecode) Bool.false_ne_true
  | some parts =>
    obtain ⟨htext, hparts⟩ := split?_eq_some_iff.mp hsplit
    have hendpoint : ∀ e, Endpoint.read (Text.afterLast '@' parts.authority) = .error e →
        e.isSizeError = true := by
      intro e he
      refine h e ?_
      simp only [decode, Account.apply, read, hsplit, Parts.content, he]
      rfl
    obtain ⟨host, digits, hhost, hdigits, hcs⟩ := exists_host_of_read hendpoint
    obtain ⟨userInfo, huser, hauthority⟩ := exists_userInfo parts.authority
    -- the legal text is put together from what `decode` has cut
    let r : Reading :=
      { protocol := Text.before '+' parts.scheme
        tokens := Text.after? '+' parts.scheme
        userInfo := userInfo
        host := host
        digits := digits
        path := parts.path
        query := parts.query
        fragment := parts.fragment }
    have hscheme : r.scheme = parts.scheme := before_append_marked_after '+' parts.scheme
    have hr : r.authority = parts.authority := by
      rw [hauthority, ← hcs]
      rfl
    have hrparts : r.parts = parts := by
      rw [Reading.parts, hscheme, hr]
    refine ⟨r, ⟨hrparts ▸ hparts, Text.not_mem_before '+' _, huser, ?_, hhost, hdigits⟩, ?_⟩
    · have hnot := Text.not_mem_afterLast '@' parts.authority
      rwa [← hcs] at hnot
    · rw [Reading.text, hrparts, htext]

/-! ## The grammar -/

theorem decode_error_of_no_reading {s : String}
    (h : ∀ r : Reading, r.Legal → r.text ≠ s.toList) :
    ∃ error, decode s = .error error ∧ error.isSizeError = false := by
  have hnot : ¬ ∀ e, decode s = .error e → e.isSizeError = true := by
    intro hsize
    obtain ⟨r, hr, htext⟩ := exists_reading_of_decode hsize
    exact h r hr htext
  simp only [Classical.not_forall, Bool.not_eq_true] at hnot
  obtain ⟨error, hdecode, hform⟩ := hnot
  exact ⟨error, hdecode, hform⟩

/-- What is read is the account of a legal reading. -/
theorem exists_reading_of_decode_ok {s : String} {account : Account}
    (h : decode s = .ok account) :
    ∃ r : Reading, r.Legal ∧ r.text = s.toList ∧ r.digitCount ≤ Text.maxNumeralLength ∧
      account = r.account := by
  obtain ⟨r, hr, htext⟩ := exists_reading_of_decode (s := s) (by simp [h])
  rw [Reading.decode_of_reading hr htext] at h
  split at h
  · simp at h
  · rename_i hlength
    exact ⟨r, hr, htext, Nat.not_lt.mp hlength, (Except.ok.inj h).symm⟩

/-- **What is read, and what is not.**  A text is read exactly when it has a legal
reading whose port has at most `maxNumeralLength` digits, and then the account is that
of the reading.  With more digits the length of the port is the error, and without a
legal reading the error is one of form.  No text has two legal readings. -/
theorem decode_eq_ok_iff_reading (s : String) :
    (∀ account, decode s = .ok account ↔
      ∃ r : Reading, r.Legal ∧ r.text = s.toList ∧ r.digitCount ≤ Text.maxNumeralLength ∧
        account = r.account) ∧
    (∀ n, decode s = .error (.portTooLong n) ↔
      ∃ r : Reading, r.Legal ∧ r.text = s.toList ∧ Text.maxNumeralLength < r.digitCount ∧
        n = r.digitCount) ∧
    ((∃ error, decode s = .error error ∧ error.isSizeError = false) ↔
      ∀ r : Reading, r.Legal → r.text ≠ s.toList) ∧
    (∀ r r' : Reading, r.Legal → r'.Legal → r.text = s.toList → r'.text = s.toList →
      r = r') := by
  refine ⟨fun account => ⟨exists_reading_of_decode_ok, ?_⟩, fun n => ⟨?_, ?_⟩,
    ⟨?_, decode_error_of_no_reading⟩, ?_⟩
  · rintro ⟨r, hr, htext, hlength, rfl⟩
    exact Reading.decode_eq_account hr htext hlength
  · intro h
    have hsize : ∀ e, decode s = .error e → e.isSizeError = true := by
      intro e he
      obtain rfl : DecodeError.portTooLong n = e := Except.error.inj (h.symm.trans he)
      rfl
    obtain ⟨r, hr, htext⟩ := exists_reading_of_decode hsize
    rw [Reading.decode_of_reading hr htext] at h
    split at h
    · rename_i hlength
      exact ⟨r, hr, htext, hlength, by simpa using h.symm⟩
    · simp at h
  · rintro ⟨r, hr, htext, hlength, rfl⟩
    rw [Reading.decode_of_reading hr htext, if_pos hlength]
  · rintro ⟨error, herror, hform⟩ r hr htext
    rw [Reading.decode_of_reading hr htext] at herror
    split at herror
    · obtain rfl := Except.error.inj herror
      exact Bool.false_ne_true hform.symm
    · simp at herror
  · intro r r' hr hr' htext htext'
    exact Reading.eq_of_text_eq hr hr' (htext.trans htext'.symm)

end MailConnection.ConnectionString
