import MailConnection.Proofs.Account.Storage

/-!
# Setters, one assignment after the other

To set a connection or a login is to assign to several fields in turn.  Each value is checked
on its own, the first one that is refused ends the row, and what was stored before stays.
`assignInTurn` makes such a row of assignments, of which the later ones may look at what the
earlier ones have stored.

`Account.connect` and `Account.setLogin` store several fields at once.  The main statements,
`assignInTurn_connectionSteps` and `assignInTurn_loginSteps`, say that these are what the rows
come to, also where a row ends early; and that no flag word is ever refused on the way.
-/

namespace MailConnection.Account

/-! ## Rows of assignments -/

/-- What an assignment is to make of an account: the name of a field with a value for it, or
nothing. -/
abbrev Assigning := Account → Option (String × Value)

/-- Make assignments in turn, up to the first one that is refused. -/
def assignInTurn : List Assigning → Account → Account × Option FieldError
  | [], account => (account, none)
  | next :: rest, account =>
    match next account with
    | none => assignInTurn rest account
    | some (name, value) =>
      match account.assign name value with
      | (changed, none) => assignInTurn rest changed
      | (changed, some error) => (changed, some error)

section
variable {account changed : Account} {next : Assigning} {name : String} {value : Value}

theorem assignInTurn_of_none (rest : List Assigning) (hnext : next account = none) :
    assignInTurn (next :: rest) account = assignInTurn rest account := by
  rw [assignInTurn, hnext]

theorem assignInTurn_of_stored (rest : List Assigning) (hnext : next account = some (name, value))
    (h : account.assign name value = (changed, none)) :
    assignInTurn (next :: rest) account = assignInTurn rest changed := by
  simp only [assignInTurn, hnext, h]

theorem assignInTurn_of_refused (rest : List Assigning) {error : FieldError}
    (hnext : next account = some (name, value))
    (h : account.assign name value = (changed, some error)) :
    assignInTurn (next :: rest) account = (changed, some error) := by
  simp only [assignInTurn, hnext, h]

/-- A row goes on after its first part unless that one ended early. -/
theorem assignInTurn_append (first rest : List Assigning) (account : Account) :
    assignInTurn (first ++ rest) account =
      match assignInTurn first account with
      | (changed, none) => assignInTurn rest changed
      | (changed, some error) => (changed, some error) := by
  induction first generalizing account with
  | nil => rfl
  | cons next others ih =>
    rw [List.cons_append]
    cases hnext : next account with
    | none => rw [assignInTurn_of_none _ hnext, assignInTurn_of_none _ hnext, ih]
    | some target =>
      obtain ⟨name, value⟩ := target
      cases hassign : account.assign name value with
      | mk changed refused =>
        cases refused with
        | none =>
          rw [assignInTurn_of_stored _ hnext hassign, assignInTurn_of_stored _ hnext hassign, ih]
        | some error =>
          rw [assignInTurn_of_refused _ hnext hassign, assignInTurn_of_refused _ hnext hassign]

end

/-! ## Single fields -/

section
variable (account : Account)

/-- A text or nothing is stored in any field for a text. -/
theorem readOptionalText_textValue (s : Option String) :
    Validation.readOptionalText (textValue s) = .ok s := by
  cases s <;> rfl

/-- The word of flags is stored as these flags. -/
theorem assign_flags {word : Int} {flags : Flags} (h : (flags.word : Int) = word) :
    account.assign "flags" (.int word) = ({ account with flags := flags }, none) := by
  subst h
  have hstored : account.assign "flags" (.int flags.word) =
      ({ account with flags := Flags.ofWord flags.word }, none) := rfl
  rw [hstored, Flags.ofWord_word]

theorem assign_address (value : Value) :
    account.assign "address" value =
      match Validation.readOptionalText value with
      | .ok address => ({ account with address := address }, none)
      | .error fault => (account, some ⟨[.field "address"], fault⟩) := by
  simp only [assign]
  cases Validation.readOptionalText value <;> rfl

theorem assign_port (value : Value) :
    account.assign "port" value =
      match Validation.readInt value with
      | .ok port => ({ account with port := port }, none)
      | .error fault => (account, some ⟨[.field "port"], fault⟩) := by
  simp only [assign]
  cases Validation.readInt value <;> rfl

end

/-! ## The connection -/

/-- An unknown port is inferred from the protocol and the SSL bit that are stored by then, if
there is a default. -/
def inferPort : Assigning := fun account =>
  if account.port = unknownPort then
    (defaultPort? (account.protocol.getD "") account.flags.mode.ssl).map fun known : Nat =>
      ("port", .int known)
  else none

/-- The assignments that set the connection.  The flag word gets the user's bits of the flags
that are given, or of those that the scheme names. -/
def connectionSteps (scheme : String) (address port : Value) (flags : Option Int) :
    List Assigning :=
  [fun _ => some ("protocol", .text (Scheme.protocol scheme)),
    fun account => some ("flags",
      .int (withUserBits account.flags.word (flags.getD (Scheme.mode scheme).word))),
    fun _ => some ("address", address),
    fun _ => some ("port", port),
    inferPort]

theorem assignInTurn_inferPort (account : Account) :
    assignInTurn [inferPort] account = (account.setPort account.port, none) := by
  rw [setPort, resolvePort]
  by_cases hunknown : account.port = unknownPort
  · rw [if_pos hunknown]
    cases hdefault : defaultPort? (account.protocol.getD "") account.flags.mode.ssl with
    | none =>
      have hnext : inferPort account = none := by
        rw [inferPort, if_pos hunknown, hdefault, Option.map_none]
      rw [assignInTurn_of_none _ hnext, ← hunknown]
      rfl
    | some known =>
      have hnext : inferPort account = some ("port", .int known) := by
        rw [inferPort, if_pos hunknown, hdefault, Option.map_some]
      rw [assignInTurn_of_stored _ hnext (account.assign_port (.int known))]
      rfl
  · rw [if_neg hunknown, assignInTurn_of_none _ (if_neg hunknown)]
    rfl

/-- The flag word after the scheme and the mode of a call were set. -/
theorem word_setScheme_chosenMode (account : Account) (scheme : String) (flags : Option Int) :
    ((account.setScheme scheme (chosenMode scheme flags)).flags.word : Int) =
      withUserBits account.flags.word (flags.getD (Scheme.mode scheme).word) := by
  rw [← word_setScheme account scheme, ← chosenMode_eq]

/-- **Setting the connection is a row of assignments,** of which the one of the address and the
one of the port may be refused. -/
theorem assignInTurn_connectionSteps (account : Account) (scheme : String) (address port : Value)
    (flags : Option Int) :
    assignInTurn (connectionSteps scheme address port flags) account =
      account.connect scheme address port (chosenMode scheme flags) := by
  let named := account.setScheme scheme (chosenMode scheme flags)
  -- neither the protocol nor the flag word is refused
  have hword := word_setScheme_chosenMode account scheme flags
  have hnamed : assignInTurn (connectionSteps scheme address port flags) account =
      assignInTurn [fun _ => some ("address", address), fun _ => some ("port", port), inferPort]
        named := by
    rw [connectionSteps, assignInTurn_of_stored _ rfl rfl,
      assignInTurn_of_stored _ rfl (assign_flags _ hword)]
    rfl
  rw [hnamed, connect_eq]
  cases haddress : Validation.readOptionalText address with
  | error fault =>
    have hrefused := named.assign_address address
    rw [haddress] at hrefused
    rw [assignInTurn_of_refused _ rfl hrefused]
  | ok text =>
    have hstored := named.assign_address address
    rw [haddress] at hstored
    rw [assignInTurn_of_stored _ rfl hstored]
    have hport := assign_port { named with address := text } port
    cases hread : Validation.readInt port with
    | error fault =>
      rw [hread] at hport
      rw [assignInTurn_of_refused _ rfl hport]
    | ok n =>
      rw [hread] at hport
      rw [assignInTurn_of_stored _ rfl hport, assignInTurn_inferPort]
      rfl

/-! ## The login -/

/-- The assignments that set the login. -/
def loginSteps (login password : Option String) : List Assigning :=
  [fun _ => some ("login", textValue login),
    fun _ => some ("password", textValue password),
    fun account => some ("flags", .int (withAuthentication account.flags.word login.isSome))]

/-- **Setting the login is a row of assignments,** none of which is refused. -/
theorem assignInTurn_loginSteps (account : Account) (login password : Option String) :
    assignInTurn (loginSteps login password) account =
      (account.setLogin login password, none) := by
  have hlogin : account.assign "login" (textValue login) =
      ({ account with login := login }, none) := by
    cases login <;> rfl
  let entered : Account := { account with login := login }
  have hpassword : entered.assign "password" (textValue password) =
      ({ entered with password := password }, none) := by
    cases password <;> rfl
  have hword := word_setLogin account login password
  rw [loginSteps, assignInTurn_of_stored _ rfl hlogin, assignInTurn_of_stored _ rfl hpassword,
    assignInTurn_of_stored _ rfl (assign_flags _ hword)]
  rfl

end MailConnection.Account
