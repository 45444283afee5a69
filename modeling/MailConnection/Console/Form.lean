/-!
# Forms of commands

A command of the command line takes options and at most one operand.  A
`CommandForm` lists them with the texts that explain them; reading arguments
(`Console.Arguments`) and explaining a command (`Console.Help`) both go by it.
-/

namespace MailConnection.Console

/-- What an option is for.  An option that takes a value has a name for the value. -/
inductive OptionKind where
  | help
  | switch
  | text (valueName : String)
  | number (valueName : String)
deriving DecidableEq, Repr

/-- An option with all its names, the short one first.  Of the options of one group only
one may be given. -/
structure OptionForm where
  names : List String
  kind : OptionKind
  required : Bool
  group : Option Nat
  help : String
deriving DecidableEq, Repr

namespace OptionForm

/-- The name of an option in messages. -/
def title (option : OptionForm) : String := "/".intercalate option.names

/-- The name of the value that an option takes, if it takes one. -/
def valueName? (option : OptionForm) : Option String :=
  match option.kind with
  | .text name => some name
  | .number name => some name
  | _ => none

end OptionForm

/-- What stands in a command besides options: one word, or one of some commands with all
that follows it.  The commands are given with their explanations. -/
structure OperandForm where
  name : String
  help : String
  choices : List (String × String)
deriving DecidableEq, Repr

/-- A command. -/
structure CommandForm where
  program : String
  description : String
  operand : Option OperandForm
  options : List OptionForm
deriving DecidableEq, Repr

end MailConnection.Console
