import MailConnection.ConnectionString.Encode
import MailConnection.Proofs.ConnectionString.Reading
import MailConnection.Proofs.Host.Characters

/-!
# What is written into a connection string

`Account.reading` says which parts an account is written as, and `encode_eq_ok` that
the connection string of an account is the text of these parts.  Whether it is read
back depends on whether they are legal: escaping sees to the login, the password and
the domain (`not_mem_escape`), and the checks on scheme and host to the rest.

The main statement is `legal_reading`: all parts are legal as long as the zone of an
IPv6 address is confined.
-/

namespace MailConnection

/-! ## Escaped text -/

namespace Text.Percent

theorem isAlphanum_upperHexDigit {n : Nat} (h : n < 16) :
    (upperHexDigit n).isAlphanum = true := by
  have hall : ∀ m : Fin 16, (upperHexDigit m).isAlphanum = true := by decide
  exact hall ⟨n, h⟩

theorem mem_escapeOctet {b : Nat} {c : Char} (h : c ∈ escapeOctet b) :
    c = '%' ∨ c.isAlphanum = true := by
  simp only [escapeOctet, hexDigits, List.nil_append, List.cons_append, List.mem_cons,
    List.not_mem_nil, or_false] at h
  rcases h with rfl | rfl | rfl
  · exact .inl rfl
  · exact .inr (isAlphanum_upperHexDigit (by omega))
  · exact .inr (isAlphanum_upperHexDigit (by omega))

/-- Escaped text holds safe characters of the text, `%`, letters and digits. -/
theorem mem_escape {safe : Char → Bool} {cs : List Char} {c : Char} (h : c ∈ escape safe cs) :
    c ∈ cs ∧ safe c = true ∨ c = '%' ∨ c.isAlphanum = true := by
  obtain ⟨d, hd, hc⟩ := List.mem_flatMap.mp h
  unfold escapeChar at hc
  split at hc
  · rename_i hsafe
    obtain rfl := List.mem_singleton.mp hc
    exact .inl ⟨hd, hsafe⟩
  · obtain ⟨b, _, hb⟩ := List.mem_flatMap.mp hc
    exact .inr (mem_escapeOctet hb)

/-- A mark that is not safe, or not in the text at all, is not in the escaped text. -/
theorem not_mem_escape {safe : Char → Bool} {cs : List Char} {d : Char}
    (hd : d.isAlphanum = false) (hpercent : d ≠ '%') (h : d ∈ cs → safe d = false) :
    d ∉ escape safe cs := by
  intro hmem
  rcases mem_escape hmem with ⟨hcs, hsafe⟩ | rfl | halnum
  · exact Bool.false_ne_true ((h hcs).symm.trans hsafe)
  · exact hpercent rfl
  · exact Bool.false_ne_true (hd.symm.trans halnum)

end Text.Percent

namespace ConnectionString

open Text.Percent (escape)

/-! ## Hosts -/

/-- A host as it is written. -/
def HostText.ofForm : Host.Form → HostText
  | .name text => .plain text
  | .literal text => .bracketed (escape (· != '%') text)

theorem escape_percent_eq (cs : List Char) :
    escape (· != '%') cs = cs.flatMap fun c => if c = '%' then ['%', '2', '5'] else [c] := by
  unfold escape
  congr 1
  funext c
  by_cases hc : c = '%'
  · subst hc
    rfl
  · simp [Text.Percent.escapeChar, hc]

theorem HostText.text_ofForm (form : Host.Form) : (ofForm form).text = form.render := by
  cases form with
  | name text => rfl
  | literal text =>
    simp only [ofForm, HostText.text, Host.Form.render, escape_percent_eq, List.cons_append]

theorem HostText.address_ofForm (form : Host.Form) : (ofForm form).address = form.text := by
  cases form with
  | name text => rfl
  | literal text => exact Text.Percent.unescape_escape rfl text

end ConnectionString

/-! ## Accounts -/

open ConnectionString in
/-- The parts that an account with this protocol and this host is written as. -/
def Account.reading (account : Account) (protocol : String) (form : Host.Form) :
    ConnectionString.Reading where
  protocol := protocol.toList
  tokens := Text.after? '+' (Scheme.suffix account.flags.mode).toList
  userInfo := account.credentials?.map fun (login, password) =>
    ⟨Text.Percent.escape loginSafe login.toList,
      some (Text.Percent.escape passwordSafe password.toList)⟩
  host := HostText.ofForm form
  digits :=
    match account.port with
    | .ofNat n => some (Text.numeral n)
    | .negSucc _ => none
  path := writeDomain account.domain
  query := none
  fragment := none

namespace ConnectionString

open Text.Percent (escape not_mem_escape)

variable {account : Account} {protocol : String} {form : Host.Form}

/-- A suffix is empty or starts with a plus sign. -/
theorem before_suffix (mode : SecurityMode) :
    Text.before '+' (Scheme.suffix mode).toList = [] := by
  obtain ⟨ssl, tls, trustAll⟩ := mode
  cases ssl <;> cases tls <;> cases trustAll <;> decide

theorem scheme_reading :
    (account.reading protocol form).scheme =
      (Scheme.encode protocol account.flags.mode).toList := by
  have hcut := before_append_marked_after '+' (Scheme.suffix account.flags.mode).toList
  rw [before_suffix, List.nil_append] at hcut
  -- a suffix that is there brings the first plus sign with it
  rw [Scheme.toList_encode, Reading.scheme]
  exact congrArg _ hcut

theorem endpoint_reading :
    (account.reading protocol form).endpoint = form.render ++ writePort account.port := by
  simp only [Reading.endpoint, Account.reading, HostText.text_ofForm]
  cases account.port <;> rfl

theorem authority_reading :
    (account.reading protocol form).authority =
      writeCredentials account.credentials? ++ (form.render ++ writePort account.port) := by
  rw [Reading.authority, endpoint_reading]
  simp only [Account.reading]
  cases account.credentials? with
  | none => rfl
  | some credentials => simp [UserInfo.text, marked, writeCredentials]

/-- **A connection string is the text of its parts.** -/
theorem encode_eq_ok {t : String} (h : account.encode = .ok t) :
    ∃ (protocol address : String) (form : Host.Form), account.protocol = some protocol ∧
      account.address = some address ∧
      isScheme (Scheme.encode protocol account.flags.mode).toList = true ∧
      Host.classify (Text.trim address.toList) = .ok form ∧
      (account.reading protocol form).text = t.toList := by
  unfold Account.encode writeScheme writeHost at h
  cases hprotocol : account.protocol with
  | none => simp [hprotocol, bind, Except.bind] at h
  | some protocol =>
    cases hscheme : isScheme (Scheme.encode protocol account.flags.mode).toList with
    | false => simp [hprotocol, hscheme, bind, Except.bind] at h
    | true =>
      cases haddress : account.address with
      | none => simp [hprotocol, hscheme, haddress, bind, Except.bind] at h
      | some address =>
        cases hform : Host.classify (Text.trim address.toList) with
        | error defect => simp [hprotocol, hscheme, haddress, hform, bind, Except.bind] at h
        | ok form =>
          refine ⟨protocol, address, form, rfl, rfl, hscheme, hform, ?_⟩
          simp only [hprotocol, hscheme, haddress, hform, bind, Except.bind, if_true,
            pure, Except.pure, Except.ok.injEq] at h
          rw [← h, String.toList_ofList, Reading.text, Parts.text]
          simp only [Reading.parts, scheme_reading, authority_reading, List.append_assoc]
          simp [Account.reading, marked]

/-! ## Legal parts -/

/-- A character of a scheme that may be written. -/
def isSchemeChar (c : Char) : Bool :=
  c.isAlphanum || c == '+' || c == '-' || c == '.' || c == '\n'

theorem isSchemeChar_of_isPlainScheme {cs : List Char} (h : isPlainScheme cs = true) :
    ∀ c ∈ cs, isSchemeChar c = true := by
  simp only [isPlainScheme, Bool.and_eq_true] at h
  intro c hc
  have hscheme := List.all_eq_true.mp h.2 c hc
  simp only [isSchemeChar, hscheme, Bool.true_or]

theorem isSchemeChar_of_isScheme {cs : List Char} (h : isScheme cs = true) :
    ∀ c ∈ cs, isSchemeChar c = true :=
  Text.class_of_line_feed isSchemeChar_of_isPlainScheme rfl h

theorem ne_nil_of_isScheme {cs : List Char} (h : isScheme cs = true) : cs ≠ [] := by
  rintro rfl
  exact absurd h (by decide)

theorem all_inScheme {cs : List Char} (h : isScheme cs = true) : cs.all inScheme = true := by
  rw [List.all_eq_true]
  intro c hc
  have hne : ∀ d, isSchemeChar d = false → c ≠ d := by
    rintro d hd rfl
    exact Text.not_mem_of_class (isSchemeChar_of_isScheme h) hd hc
  simp [inScheme, hne ':' rfl, hne '/' rfl, hne '?' rfl, hne '#' rfl]

theorem all_inAuthority {cs : List Char} (h : ∀ d ∈ ['/', '?', '#'], d ∉ cs) :
    cs.all inAuthority = true := by
  rw [List.all_eq_true]
  intro c hc
  have hne : ∀ d ∈ ['/', '?', '#'], c ≠ d := by
    rintro d hd rfl
    exact h c hd hc
  simp [inAuthority, hne '/', hne '?', hne '#']

/-- Nothing that ends an authority is in the credentials. -/
theorem not_mem_writeCredentials (credentials : Option (String × String)) :
    ∀ d ∈ ['/', '?', '#'], d ∉ writeCredentials credentials := by
  intro d hd
  have hmark : d.isAlphanum = false ∧ d ≠ '%' ∧ passwordSafe d = false ∧ loginSafe d = false ∧
      d ≠ ':' ∧ d ≠ '@' := by
    simp only [List.mem_cons, List.not_mem_nil, or_false] at hd
    rcases hd with rfl | rfl | rfl <;> decide
  obtain ⟨halnum, hpercent, hpassword, hlogin, hcolon, hat⟩ := hmark
  cases credentials with
  | none => simp [writeCredentials]
  | some pair =>
    obtain ⟨login, password⟩ := pair
    have hl : d ∉ escape loginSafe login.toList := not_mem_escape halnum hpercent fun _ => hlogin
    have hp : d ∉ escape passwordSafe password.toList :=
      not_mem_escape halnum hpercent fun _ => hpassword
    simp [writeCredentials, hl, hp, hcolon, hat]

theorem not_mem_writePort {d : Char} (hdigit : d.isDigit = false) (hcolon : d ≠ ':') (port : Int) :
    d ∉ writePort port := by
  cases port with
  | ofNat n =>
    simp only [writePort, List.mem_cons, not_or]
    exact ⟨hcolon, Text.not_mem_of_class (fun c hc => Text.isDigit_of_mem_numeral hc) hdigit⟩
  | negSucc n => simp [writePort]

/-- A host with a confined zone is written without the marks that end an authority or a
part of it. -/
theorem not_mem_render {cs : List Char} (h : Host.classify cs = .ok form)
    (hzone : ∀ zone, Host.zone? form.text = some zone → Host.ConfinedZone zone) :
    ∀ d ∈ ['@', '/', '?', '#'], d ∉ form.render := by
  intro d hd
  rw [← HostText.text_ofForm]
  rcases Host.classify_eq_ok h with ⟨rfl, hname⟩ | ⟨rfl, _, haddress⟩
  · have hnot : Host.isNameChar d = false := by
      simp only [List.mem_cons, List.not_mem_nil, or_false] at hd
      rcases hd with rfl | rfl | rfl | rfl <;> rfl
    exact Text.not_mem_of_class hname hnot
  · have hmarks : d.isAlphanum = false ∧ d ≠ '%' ∧ d ≠ '[' ∧ d ≠ ']' ∧
        d ∈ ['@', ']', '/', '?', '#'] := by
      simp only [List.mem_cons, List.not_mem_nil, or_false] at hd
      rcases hd with rfl | rfl | rfl | rfl <;> decide
    obtain ⟨halnum, hpercent, hopen, hclose, hmark⟩ := hmarks
    have hliteral := Host.Ipv6.not_mem_of_confinedZone haddress hzone hmark
    have hinside : d ∉ escape (· != '%') (Host.unbracket cs) :=
      not_mem_escape halnum hpercent fun hmem => absurd hmem hliteral
    simp [HostText.ofForm, HostText.text, hopen, hclose, hinside]

theorem legal_ofForm {cs : List Char} (h : Host.classify cs = .ok form)
    (hzone : ∀ zone, Host.zone? form.text = some zone → Host.ConfinedZone zone) :
    (HostText.ofForm form).Legal := by
  rcases Host.classify_eq_ok h with ⟨rfl, hname⟩ | ⟨rfl, _, haddress⟩
  · refine ⟨Text.not_mem_of_class hname rfl, fun hhead => ?_⟩
    exact Text.not_mem_of_class hname rfl (List.mem_of_mem_head? hhead)
  · have hclose := Host.Ipv6.not_mem_of_confinedZone haddress hzone (d := ']') (by decide)
    exact not_mem_escape rfl (by decide) fun hmem => absurd hmem hclose

theorem all_inPath_writeDomain (domain : Option String) :
    (writeDomain domain).all inPath = true := by
  cases domain with
  | none => rfl
  | some text =>
    rw [List.all_eq_true]
    intro c hc
    have hnot : ∀ d ∈ ['?', '#'], d ∉ writeDomain (some text) := by
      intro d hd
      have hmark : d.isAlphanum = false ∧ d ≠ '%' ∧ domainSafe d = false ∧ d ≠ '/' := by
        simp only [List.mem_cons, List.not_mem_nil, or_false] at hd
        rcases hd with rfl | rfl <;> decide
      obtain ⟨halnum, hpercent, hsafe, hslash⟩ := hmark
      have hescape : d ∉ escape domainSafe text.toList :=
        not_mem_escape halnum hpercent fun _ => hsafe
      simp [writeDomain, hslash, hescape]
    have hne : ∀ d ∈ ['?', '#'], c ≠ d := by
      rintro d hd rfl
      exact hnot c hd hc
    simp [inPath, hne '?', hne '#']

/-- **An account with a confined zone is written in legal parts.** -/
theorem legal_reading {cs : List Char} (hprotocol : '+' ∉ protocol.toList)
    (hscheme : isScheme (Scheme.encode protocol account.flags.mode).toList = true)
    (hform : Host.classify cs = .ok form)
    (hzone : ∀ zone, Host.zone? form.text = some zone → Host.ConfinedZone zone) :
    (account.reading protocol form).Legal := by
  have hrender := not_mem_render hform hzone
  refine ⟨⟨?_, ?_, ?_, ?_, ?_, ?_, ?_⟩, hprotocol, ?_, ?_, legal_ofForm hform hzone, ?_⟩
  · show (account.reading protocol form).scheme ≠ []
    rw [scheme_reading]
    exact ne_nil_of_isScheme hscheme
  · show (account.reading protocol form).scheme.all inScheme = true
    rw [scheme_reading]
    exact all_inScheme hscheme
  · -- the authority
    show (account.reading protocol form).authority.all inAuthority = true
    rw [authority_reading]
    refine all_inAuthority fun d hd => ?_
    have hmarks : d ∈ ['@', '/', '?', '#'] ∧ d.isDigit = false ∧ d ≠ ':' := by
      simp only [List.mem_cons, List.not_mem_nil, or_false] at hd
      rcases hd with rfl | rfl | rfl <;> decide
    obtain ⟨hmark, hdigit, hcolon⟩ := hmarks
    simp only [List.mem_append, not_or]
    exact ⟨not_mem_writeCredentials _ d hd, hrender d hmark, not_mem_writePort hdigit hcolon _⟩
  · exact all_inPath_writeDomain account.domain
  · intro c hc
    simp only [Reading.parts, Account.reading] at hc
    cases hdomain : account.domain with
    | none => simp [hdomain, writeDomain] at hc
    | some domain => simpa [hdomain, writeDomain, eq_comm] using hc
  · simp [Reading.parts, Account.reading]
  · simp [Reading.parts, Account.reading]
  · -- the login
    intro info hinfo
    obtain ⟨⟨login, password⟩, _, rfl⟩ := Option.map_eq_some_iff.mp hinfo
    exact not_mem_escape rfl (by decide) fun _ => rfl
  · -- the endpoint
    have hport := not_mem_writePort (d := '@') rfl (by decide) account.port
    have hhost := hrender '@' (by decide)
    rw [endpoint_reading, List.mem_append, not_or]
    exact ⟨hhost, hport⟩
  · -- the digits of the port
    intro ds hds
    simp only [Account.reading] at hds
    split at hds
    · obtain rfl := Option.some.inj hds
      exact List.all_eq_true.mpr fun c hc => Text.isDigit_of_mem_numeral hc
    · simp at hds

/-! ## What the parts say -/

theorem digitCount_reading_le (hport : account.port < Text.numeralBound Text.maxNumeralLength) :
    (account.reading protocol form).digitCount ≤ Text.maxNumeralLength := by
  simp only [Reading.digitCount, Account.reading]
  cases hp : account.port with
  | ofNat n =>
    rw [hp] at hport
    exact Text.length_numeral_le (by decide) (Int.ofNat_lt.mp hport)
  | negSucc n => exact Nat.zero_le _

theorem mode_reading (hprotocol : '+' ∉ protocol.toList) :
    (account.reading protocol form).mode = Scheme.normalMode account.flags.mode := by
  rw [Reading.mode, scheme_reading, String.ofList_toList, Scheme.mode_encode hprotocol]

theorem login_reading :
    (account.reading protocol form).login = account.credentials?.map Prod.fst := by
  simp only [Reading.login, Account.reading]
  cases account.credentials? with
  | none => rfl
  | some credentials =>
    simp [UserInfo.text, marked, Text.Percent.unescape_escape (show loginSafe '%' = false from rfl)]

theorem password_reading :
    (account.reading protocol form).password = account.credentials?.map Prod.snd := by
  simp only [Reading.password, Account.reading]
  cases account.credentials? with
  | none => rfl
  | some credentials =>
    simp [Text.Percent.unescape_escape (show passwordSafe '%' = false from rfl)]

theorem domain_reading : (account.reading protocol form).domain = account.domain := by
  simp only [Reading.domain, Account.reading]
  cases account.domain with
  | none => rfl
  | some domain =>
    simp [writeDomain, Text.Percent.unescape_escape (show domainSafe '%' = false from rfl)]

theorem port_reading (hprotocol : '+' ∉ protocol.toList) :
    (account.reading protocol form).port =
      if 0 ≤ account.port then account.port
      else inferredPort protocol (Scheme.normalMode account.flags.mode).ssl := by
  rw [Reading.port, mode_reading hprotocol]
  simp only [Account.reading, String.ofList_toList]
  cases hp : account.port with
  | ofNat n =>
    have hvalue := Text.numeralValue_numeral n
    have hnonneg : 0 ≤ Int.ofNat n := Int.natCast_nonneg n
    rw [if_pos hnonneg]
    cases hnumeral : Text.numeral n with
    | nil => exact absurd hnumeral (Text.numeral_ne_nil n)
    | cons d ds =>
      rw [hnumeral] at hvalue
      simp only [hnumeral, hvalue]
      rfl
  | negSucc n =>
    rw [if_neg (Int.not_le.mpr (Int.negSucc_lt_zero n))]

end ConnectionString

end MailConnection
