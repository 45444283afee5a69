import MailConnection.Proofs.Account.Assignments

/-!
# Calls that end early

What a caller finds who catches an error and goes on with the account.

A connection string is applied as a whole or not at all (`applyInTurn_allOrNothing`): all that
can be wrong with it is found before the first assignment, and no value that is read from it is
refused by one.  Setting a connection may end half-way, and
`assignInTurn_connectionSteps_effect` says where: scheme and security mode are always
replaced, the address if it stands for a text, the port if nothing is refused.

Both statements are about the assignments one by one, and say that the operations of the
library come to the same.
-/

namespace MailConnection.Account

/-- The outcome of assignments as that of an operation. -/
def reported : Account × Option FieldError → Account × Except OperationError Unit
  | (account, none) => (account, .ok ())
  | (account, some error) => (account, .error (.refused error))

/-! ## Connection strings -/

section
open ConnectionString

/-- The assignments that a connection string asks for once it was read. -/
def contentSteps (content : Content) : List Assigning :=
  connectionSteps content.scheme (.text (String.ofList content.endpoint.host)) (.int content.port)
      none ++
    (loginSteps content.login content.password ++
      [fun _ => some ("domain", textValue content.domain)])

/-- Read a connection string, and make the assignments that it asks for. -/
def applyInTurn (account : Account) (s : String) : Account × Except OperationError Unit :=
  match ConnectionString.read s with
  | .error error => (account, .error (.unreadable error))
  | .ok content => reported (assignInTurn (contentSteps content) account)

/-- **No value that is read from a connection string is refused.** -/
theorem assignInTurn_contentSteps (account : Account) (content : Content) :
    assignInTurn (contentSteps content) account = (content.applyTo account, none) := by
  let host := String.ofList content.endpoint.host
  let connected :=
    account.setConnection content.scheme (some host) content.port (Scheme.mode content.scheme)
  let entered := connected.setLogin content.login content.password
  let setDomain : Assigning := fun _ => some ("domain", textValue content.domain)
  have hconnected : assignInTurn
      (connectionSteps content.scheme (.text host) (.int content.port) none) account =
        (connected, none) := by
    rw [assignInTurn_connectionSteps, connect_eq]
    rfl
  have hdomain : entered.assign "domain" (textValue content.domain) =
      ({ entered with domain := content.domain }, none) := by
    rw [assign_domain, readOptionalText_textValue]
  calc assignInTurn (contentSteps content) account
      = assignInTurn (loginSteps content.login content.password ++ [setDomain]) connected := by
        rw [contentSteps, assignInTurn_append, hconnected]
    _ = assignInTurn [setDomain] entered := by
        rw [assignInTurn_append, assignInTurn_loginSteps]
    _ = (content.applyTo account, none) := assignInTurn_of_stored [] rfl hdomain

theorem applyInTurn_eq (account : Account) (s : String) :
    account.applyInTurn s =
      match ConnectionString.read s with
      | .ok content => (content.applyTo account, .ok ())
      | .error error => (account, .error (.unreadable error)) := by
  rw [applyInTurn]
  cases ConnectionString.read s with
  | error error => rfl
  | ok content =>
    simp only [assignInTurn_contentSteps]
    rfl

/-- **A connection string is applied as a whole or not at all.**  Applying it fails exactly if
it cannot be decoded, and with that error; then every field is as before.  Otherwise the
account is the decoded one, save for its row identity and the unnamed bits of its flags, which
are as before. -/
theorem applyInTurn_allOrNothing (account : Account) (s : String) :
    (∀ error, (account.applyInTurn s).2 = .error error ↔
      ∃ reason, error = .unreadable reason ∧ decode s = .error reason) ∧
    (∀ error, (account.applyInTurn s).2 = .error error → (account.applyInTurn s).1 = account) ∧
    (∀ decoded, decode s = .ok decoded → account.applyInTurn s =
      ({ decoded with
          id := account.id
          flags := { decoded.flags with unnamed := account.flags.unnamed } }, .ok ())) ∧
    account.applyInTurn s = (Operation.apply s).run account := by
  rw [applyInTurn_eq, Operation.run_apply, decode, Account.apply]
  cases ConnectionString.read s with
  | error reason => simp [Except.map, eq_comm]
  | ok content =>
    refine ⟨by simp [Except.map], by simp, ?_, rfl⟩
    intro decoded hdecoded
    obtain rfl := Except.ok.inj hdecoded
    rfl

end

/-! ## Connections -/

/-- The texts, or nothing, that a value may stand for where a text is expected. -/
inductive StandsForText : Value → Option String → Prop
  | null : StandsForText .null none
  | text (s : String) : StandsForText (.text s) (some s)
  | octets {bs : List Nat} (h : Text.Utf8.firstDefect none 0 0 bs = none) :
      StandsForText (.octets bs) (some (String.ofList (Text.Utf8.decode bs)))

theorem standsForText_iff {value : Value} {s : Option String} :
    StandsForText value s ↔ Validation.readOptionalText value = .ok s := by
  constructor
  · intro h
    cases h with
    | null => rfl
    | text => rfl
    | octets hvalid =>
      simp [Validation.readOptionalText, Validation.readText, Validation.textOfOctets?, hvalid,
        Except.map]
  · intro h
    cases value with
    | null =>
      obtain rfl := Except.ok.inj h
      exact .null
    | text t =>
      obtain rfl := Except.ok.inj h
      exact .text t
    | octets bs =>
      simp only [Validation.readOptionalText, Validation.readText, Validation.textOfOctets?] at h
      cases hvalid : Text.Utf8.firstDefect none 0 0 bs with
      | none =>
        rw [hvalid] at h
        obtain rfl := Except.ok.inj h
        exact .octets hvalid
      | some defect =>
        rw [hvalid] at h
        cases h
    | bool | int | real | moment | list | record => simp [Validation.readOptionalText,
        Validation.readText, Except.map] at h

/-- A value that is no row of octets stands for a text only if it is one, or null. -/
theorem exists_standsForText_iff {value : Value} (h : ∀ bs, value ≠ .octets bs) :
    (∃ s, StandsForText value s) ↔ value = .null ∨ ∃ t, value = .text t := by
  constructor
  · rintro ⟨s, hs⟩
    cases hs with
    | null => exact .inl rfl
    | text t => exact .inr ⟨t, rfl⟩
    | octets => exact absurd rfl (h _)
  · rintro (rfl | ⟨t, rfl⟩)
    · exact ⟨none, .null⟩
    · exact ⟨some t, .text t⟩

theorem run_setConnection_eq (account : Account) (scheme : String) (address port : Value)
    (flags : Option Int) :
    (Operation.setConnection scheme address port flags).run account =
      reported (account.connect scheme address port (chosenMode scheme flags)) := by
  rw [Operation.run_setConnection, connect_eq]
  cases Validation.readOptionalText address with
  | error fault => rfl
  | ok text => cases Validation.readInt port <;> rfl

/-- What setting a connection has nothing to do with: the row identity, the credentials, the
domain, the bit for authentication and all bits without a name. -/
structure KeepsRest (account changed : Account) : Prop where
  id : changed.id = account.id
  login : changed.login = account.login
  password : changed.password = account.password
  domain : changed.domain = account.domain
  bits : ∀ i, i = 2 ∨ 4 ≤ i → changed.flags.word.testBit i = account.flags.word.testBit i

theorem keepsRest_setScheme (account : Account) (scheme : String) (mode : SecurityMode) :
    account.KeepsRest (account.setScheme scheme mode) where
  id := rfl
  login := rfl
  password := rfl
  domain := rfl
  bits i hi := by
    rw [Flags.testBit_word, Flags.testBit_word]
    match i, hi with
    | 2, _ => rfl
    | n + 4, _ => rfl

/-- Address and port are written after the scheme, and they are no part of the rest. -/
theorem KeepsRest.located {account named : Account} (h : account.KeepsRest named)
    (address : Option String) (port : Int) :
    account.KeepsRest { named with address := address, port := port } :=
  ⟨h.id, h.login, h.password, h.domain, h.bits⟩

/-- Wherever a call for the connection ends, it has set scheme and mode, and apart from these
nothing but address and port. -/
theorem exists_connect_eq_located (account : Account) (scheme : String) (address port : Value)
    (mode : SecurityMode) :
    ∃ located settled, (account.connect scheme address port mode).1 =
      { account.setScheme scheme mode with address := located, port := settled } := by
  rw [connect_eq]
  cases Validation.readOptionalText address with
  | error fault => exact ⟨account.address, account.port, rfl⟩
  | ok text =>
    cases Validation.readInt port with
    | error fault => exact ⟨text, account.port, rfl⟩
    | ok n => exact ⟨text, _, rfl⟩

/-- **What setting a connection does, also when it ends half-way.**  It ends with an error
exactly if the address stands for no text or the port for no number, and the error is that of
the first of these.  Protocol and user's bits are new in any case; the address if it stands for
a text, also when the port is refused; the port only if nothing is.  The rest of the account is
as before. -/
theorem assignInTurn_connectionSteps_effect (account : Account) (scheme : String)
    (address port : Value) (flags : Option Int) :
    let outcome := assignInTurn (connectionSteps scheme address port flags) account
    let named := account.setScheme scheme (chosenMode scheme flags)
    ((∃ error, outcome.2 = some error) ↔
      (¬ ∃ s, StandsForText address s) ∨ ¬ ∃ n, Validation.readInt port = .ok n) ∧
    (∀ fault, Validation.readOptionalText address = .error fault →
      outcome = (named, some ⟨[.field "address"], fault⟩)) ∧
    (∀ s fault, StandsForText address s → Validation.readInt port = .error fault →
      outcome = ({ named with address := s }, some ⟨[.field "port"], fault⟩)) ∧
    (∀ s n, StandsForText address s → Validation.readInt port = .ok n →
      outcome = ({ named with
        address := s
        port := resolvePort (Scheme.protocol scheme) (chosenMode scheme flags).ssl n }, none)) ∧
    ((∀ bs, address ≠ .octets bs) →
      ((∃ s, StandsForText address s) ↔ address = .null ∨ ∃ t, address = .text t)) ∧
    outcome.1.protocol = some (Scheme.protocol scheme) ∧
    (outcome.1.flags.word : Int) =
      withUserBits account.flags.word (flags.getD (Scheme.mode scheme).word) ∧
    account.KeepsRest outcome.1 ∧
    (Operation.setConnection scheme address port flags).run account = reported outcome := by
  intro outcome named
  have houtcome : outcome = account.connect scheme address port (chosenMode scheme flags) :=
    assignInTurn_connectionSteps account scheme address port flags
  have hkeeps : account.KeepsRest named := keepsRest_setScheme account scheme _
  obtain ⟨located, settled, hlocated⟩ :=
    exists_connect_eq_located account scheme address port (chosenMode scheme flags)
  rw [← houtcome] at hlocated
  refine ⟨?_, ?_, ?_, ?_, exists_standsForText_iff, ?_, ?_, ?_, ?_⟩
  · simp only [houtcome, connect_eq, standsForText_iff]
    cases Validation.readOptionalText address with
    | error fault => simp
    | ok text => cases Validation.readInt port <;> simp
  · intro fault haddress
    rw [houtcome, connect_eq, haddress]
  · intro s fault haddress hport
    rw [houtcome, connect_eq, standsForText_iff.mp haddress, hport]
  · intro s n haddress hport
    rw [houtcome, connect_eq, standsForText_iff.mp haddress, hport]
    rfl
  · rw [hlocated]
    rfl
  · rw [hlocated]
    exact word_setScheme_chosenMode account scheme flags
  · rw [hlocated]
    exact hkeeps.located located settled
  · rw [run_setConnection_eq, houtcome]

/-- Two values are wrong: the first one is reported, and the mode is already set. -/
example : assignInTurn (connectionSteps "imap+ssl+" (.int 5) (.text "x") none) empty =
    ({ empty with protocol := some "imap", flags := ⟨⟨true, false, false⟩, false, 0⟩ },
      some ⟨[.field "address"], .notText⟩) := by decide +kernel

end MailConnection.Account
