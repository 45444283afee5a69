import MailConnection.Account.Record
import MailConnection.ConnectionString.Decode

/-!
# Operations on accounts

The calls that change an account, as data.  `Operation.run` performs one and says
whether it succeeded; a call that fails may have changed a part of the account
before.  `runAll` performs a row of them, going on after failures, so that
statements about every reachable account are statements about lists of
operations.
-/

namespace MailConnection.Account

/-- Why an operation failed. -/
inductive OperationError where
  | refused (error : FieldError)
  | unreadable (error : DecodeError)
  | readOnly (name : String)
deriving DecidableEq, Repr

/-- The words for an error. -/
def OperationError.message : OperationError → String
  | .refused error => error.fault.message
  | .unreadable error => error.message
  | .readOnly name => "property '" ++ name ++ "' of 'ConnectionDescriptor' object has no setter"

/-- The names of what can be read off an account but is no field: the fields that are not
foreseen, of which there are none, and the names of the fields that were given. -/
def readOnlyNames : List String := ["model_extra", "model_fields_set"]

/-- A call that changes an account. -/
inductive Operation where
  | setUserInfo (info : Option String)
  | setLogin (login password : Option String)
  | setConnection (scheme : String) (address port : Value) (flags : Option Int)
  | apply (s : String)
  | assign (name : String) (value : Value)
deriving Repr

/-- The security mode of a call: the user's bits of the given flags, or the mode
that the scheme names. -/
def chosenMode (scheme : String) : Option Int → SecurityMode
  | none => Scheme.mode scheme
  | some flags => SecurityMode.ofInt flags

namespace Operation

/-- An account after a field was checked, and the failure if there was one. -/
private def ofCheck : Account × Option FieldError → Account × Except OperationError Unit
  | (account, none) => (account, .ok ())
  | (account, some error) => (account, .error (.refused error))

/-- Perform an operation. -/
def run (operation : Operation) (account : Account) : Account × Except OperationError Unit :=
  match operation with
  | .setUserInfo info => (account.setUserInfo info, .ok ())
  | .setLogin login password => (account.setLogin login password, .ok ())
  | .setConnection scheme address port flags =>
    ofCheck (account.connect scheme address port (chosenMode scheme flags))
  | .apply s =>
    match account.apply s with
    | .ok changed => (changed, .ok ())
    | .error error => (account, .error (.unreadable error))
  | .assign name value =>
    if readOnlyNames.contains name then (account, .error (.readOnly name))
    else ofCheck (account.assign name value)

theorem run_setConnection (scheme : String) (address port : Value) (flags : Option Int)
    (account : Account) :
    (setConnection scheme address port flags).run account =
      let mode := chosenMode scheme flags
      match Validation.readOptionalText address, Validation.readInt port with
      | .error fault, _ =>
        (account.setScheme scheme mode, .error (.refused ⟨[.field "address"], fault⟩))
      | .ok address, .error fault =>
        ({ account.setScheme scheme mode with address := address },
          .error (.refused ⟨[.field "port"], fault⟩))
      | .ok address, .ok port => (account.setConnection scheme address port mode, .ok ()) := by
  simp only [run, connect_eq]
  cases Validation.readOptionalText address with
  | error fault => rfl
  | ok address => cases Validation.readInt port <;> rfl

theorem run_apply (s : String) (account : Account) :
    (apply s).run account =
      match ConnectionString.read s with
      | .ok content => (content.applyTo account, .ok ())
      | .error error => (account, .error (.unreadable error)) := by
  simp only [run, Account.apply]
  cases ConnectionString.read s <;> rfl

theorem run_assign_domain (value : Value) (account : Account) :
    (assign "domain" value).run account =
      match Validation.readOptionalText value with
      | .ok domain => ({ account with domain := domain }, .ok ())
      | .error fault => (account, .error (.refused ⟨[.field "domain"], fault⟩)) := by
  have hwritable : readOnlyNames.contains "domain" = false := by decide
  simp only [run, hwritable, Bool.false_eq_true, if_false, assign_domain]
  cases Validation.readOptionalText value <;> rfl

theorem fst_run_assign (name : String) (value : Value) (account : Account) :
    ((assign name value).run account).1 =
      if readOnlyNames.contains name then account else (account.assign name value).1 := by
  simp only [run]
  split
  · rfl
  · obtain ⟨changed, _ | error⟩ := account.assign name value <;> rfl

/-- The account after a row of operations, whether they succeed or not. -/
def runAll (operations : List Operation) (account : Account) : Account :=
  operations.foldl (fun current operation => (operation.run current).1) account

end Operation

end MailConnection.Account
