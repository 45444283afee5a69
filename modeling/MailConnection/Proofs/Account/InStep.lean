import MailConnection.Account.Operation

/-!
# Credentials in step with the flags

Whether an account authenticates is stored twice: in its login, and in a bit of the flag
word that the security mode shares.  Nothing in the type keeps the two in step, and
assigning a field by its name can part them.  The calls that are meant for changing an
account cannot, in whatever order they come and whether they succeed or not.

`InStep` is the invariant, together with what else holds of an account that was only
changed by such calls: no row identity, no unnamed flags, no plus sign in the protocol.
Each step of a call keeps it, also the steps that `connect` takes before a value is
refused, and so does every call (`InStep.run`) and every row of calls (`InStep.runAll`).
-/

namespace MailConnection.Account

/-- Login and flags say the same, and nothing else is there that no call puts there. -/
structure InStep (account : Account) : Prop where
  id : account.id = none
  protocol : ∀ protocol, account.protocol = some protocol → '+' ∉ protocol.toList
  authenticate : account.flags.authenticate = account.login.isSome
  unnamed : account.flags.unnamed = 0

namespace InStep

variable {account : Account}

theorem empty : Account.empty.InStep where
  id := rfl
  protocol := by simp [Account.empty]
  authenticate := rfl
  unnamed := rfl

/-! ## The steps of a call -/

theorem setLogin (h : account.InStep) (login password : Option String) :
    (account.setLogin login password).InStep where
  id := h.id
  protocol := h.protocol
  authenticate := rfl
  unnamed := h.unnamed

theorem setScheme (h : account.InStep) (scheme : String) (mode : SecurityMode) :
    (account.setScheme scheme mode).InStep where
  id := h.id
  protocol := by
    rintro protocol ⟨⟩
    exact Scheme.plus_not_mem_protocol scheme
  authenticate := h.authenticate
  unnamed := h.unnamed

theorem withAddress (h : account.InStep) (address : Option String) :
    { account with address := address }.InStep :=
  ⟨h.id, h.protocol, h.authenticate, h.unnamed⟩

theorem withDomain (h : account.InStep) (domain : Option String) :
    { account with domain := domain }.InStep :=
  ⟨h.id, h.protocol, h.authenticate, h.unnamed⟩

theorem setPort (h : account.InStep) (port : Int) : (account.setPort port).InStep :=
  ⟨h.id, h.protocol, h.authenticate, h.unnamed⟩

theorem setConnection (h : account.InStep) (scheme : String) (address : Option String)
    (port : Int) (mode : SecurityMode) :
    (account.setConnection scheme address port mode).InStep :=
  ((h.setScheme scheme mode).withAddress address).setPort port

theorem applyTo (h : account.InStep) (content : ConnectionString.Content) :
    (content.applyTo account).InStep := by
  have hconnected := h.setConnection content.scheme (some (String.ofList content.endpoint.host))
    content.port (Scheme.mode content.scheme)
  exact (hconnected.setLogin content.login content.password).withDomain content.domain

end InStep

/-! ## Calls -/

/-- The operations that keep login and flags in step: all calls, and of the assignments the
one of the domain, which no call sets by itself. -/
def Operation.keepsStep : Operation → Bool
  | .assign name _ => name == "domain"
  | _ => true

namespace InStep

variable {account : Account}

/-- **No call parts login and flags,** one that fails no more than one that succeeds. -/
theorem run (h : account.InStep) {operation : Operation} (hkeeps : operation.keepsStep = true) :
    (operation.run account).1.InStep := by
  cases operation with
  | setUserInfo info => exact h.setLogin _ _
  | setLogin login password => exact h.setLogin login password
  | setConnection scheme address port flags =>
    -- the call stops at a value that is refused, with scheme and mode already set
    have hnamed := h.setScheme scheme (chosenMode scheme flags)
    rw [Operation.run_setConnection]
    cases Validation.readOptionalText address with
    | error fault => exact hnamed
    | ok address =>
      cases Validation.readInt port with
      | error fault => exact hnamed.withAddress address
      | ok port => exact h.setConnection scheme address port _
  | apply s =>
    rw [Operation.run_apply]
    cases ConnectionString.read s with
    | error error => exact h
    | ok content => exact h.applyTo content
  | assign name value =>
    obtain rfl : name = "domain" := by simpa [Operation.keepsStep] using hkeeps
    rw [Operation.run_assign_domain]
    cases Validation.readOptionalText value with
    | error fault => exact h
    | ok domain => exact h.withDomain domain

theorem runAll (h : account.InStep) {operations : List Operation}
    (hkeeps : ∀ operation ∈ operations, operation.keepsStep = true) :
    (Operation.runAll operations account).InStep := by
  induction operations generalizing account with
  | nil => exact h
  | cons operation rest ih =>
    have hrun := h.run (hkeeps operation List.mem_cons_self)
    exact ih hrun fun other hother => hkeeps other (List.mem_cons_of_mem operation hother)

/-! ## What it says about the flag word -/

theorem testBit_two (h : account.InStep) :
    account.flags.word.testBit 2 = true ↔ account.login ≠ none := by
  rw [Flags.testBit_word, h.authenticate, Option.isSome_iff_ne_none]

theorem credentials?_eq_none_iff (h : account.InStep) :
    account.credentials? = none ↔ account.login = none := by
  rw [credentials?, h.authenticate]
  cases account.login <;> simp

end InStep

/-- **After any row of calls** the bit for authentication, which has the value 4, is set
exactly if there is a login, and so credentials are found exactly if there is one.  No other
bits than the four named ones are set. -/
theorem runAll_empty_inStep (operations : List Operation)
    (hkeeps : ∀ operation ∈ operations, operation.keepsStep = true) :
    let account := Operation.runAll operations empty
    (account.flags.word.testBit 2 = true ↔ account.login ≠ none) ∧
      (account.credentials? = none ↔ account.login = none) ∧
      account.flags.word < 16 ∧
      (∀ protocol, account.protocol = some protocol → '+' ∉ protocol.toList) ∧
      account.id = none := by
  intro account
  have h : account.InStep := InStep.empty.runAll hkeeps
  have hword := (Flags.word_lt_sixteen_iff account.flags).mpr h.unnamed
  exact ⟨h.testBit_two, h.credentials?_eq_none_iff, hword, h.protocol, h.id⟩

/-- Calls that leave an account half changed: an address that is no text, a port that is no
number, a connection string that cannot be read. -/
def halting : List Operation :=
  [.setLogin none (some "kept"), .setConnection "imap+ssl+" (.int 5) (.int 993) (some (-1)),
    .setUserInfo (some ":secret"), .setConnection "smtp" (.text "h") (.text "x") (some 1048575),
    .apply "imap://h:x", .assign "domain" (.text "box"), .assign "domain" (.bool true)]

theorem runAll_empty_inStep_halting :
    (∀ operation ∈ halting, operation.keepsStep = true) ∧
      ((Operation.runAll halting empty).flags.word.testBit 2 = true ↔
        (Operation.runAll halting empty).login ≠ none) ∧
      ((Operation.runAll halting empty).credentials? = none ↔
        (Operation.runAll halting empty).login = none) ∧
      (Operation.runAll halting empty).flags.word < 16 ∧
      (∀ protocol, (Operation.runAll halting empty).protocol = some protocol →
        '+' ∉ protocol.toList) ∧
      (Operation.runAll halting empty).id = none := by
  have hkeeps : ∀ operation ∈ halting, operation.keepsStep = true := by
    simp [halting, Operation.keepsStep]
  exact ⟨hkeeps, runAll_empty_inStep halting hkeeps⟩

end MailConnection.Account
