import MailConnection.ConnectionString.Decode
import MailConnection.Settings.Source
import MailConnection.Validation

/-!
# Outcomes

What a run of the program comes to: an exit status, or a failure that no command
reports, and the two texts that are printed.  A command makes a `Report`, the notes
that are shown and its result, and `Report.outcome` lays it out.
-/

namespace MailConnection.Console

/-- A failure that no command reports. -/
inductive Failure where
  | refused (error : FieldError)
  | unreadable (error : DecodeError)
  | source (error : SourceError)
  | protocolNotText
deriving DecidableEq, Repr

/-- The words for a failure. -/
def Failure.message : Failure → String
  | .refused error => error.fault.message
  | .unreadable error => error.message
  | .source error => error.message
  | .protocolNotText => "'list' object has no attribute 'split'"

/-- How a run ends. -/
inductive Exit where
  | status (n : Nat)
  | failure (cause : Failure)
deriving DecidableEq, Repr

/-- How a run ends and what it prints, `errors` being what goes to the error stream. -/
structure Outcome where
  exit : Exit
  output : String
  errors : String
deriving DecidableEq, Repr

/-- What a command comes to: a text to print, a complaint, or a failure. -/
inductive Result where
  | printed (text : String)
  | rejected (complaint : String)
  | failed (cause : Failure)
deriving DecidableEq, Repr

/-- A complaint about what the command was given. -/
def Result.error (message : String) : Result := .rejected ("Error: " ++ message)

/-- The notes that a command shows and what it comes to. -/
structure Report where
  notes : List Note
  result : Result
deriving DecidableEq, Repr

/-- The outcome of a command.  Notes stand before complaints. -/
def Report.outcome (report : Report) : Outcome :=
  let lines := String.join (report.notes.map Note.line)
  match report.result with
  | .printed text => ⟨.status 0, text, lines⟩
  | .rejected complaint => ⟨.status 1, "", lines ++ complaint ++ "\n"⟩
  | .failed cause => ⟨.failure cause, "", lines⟩

end MailConnection.Console
