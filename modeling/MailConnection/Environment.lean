/-!
# Environments

An environment is a row of variables with their values.  Most variables are looked
up by their exact name; the settings are looked up without regard to case, and of
several variables that differ in case only, the last one counts.
-/

namespace MailConnection

/-- Variables and their values, in order. -/
abbrev Environment := List (String × String)

namespace Environment

/-- The value of a variable. -/
def get? (environment : Environment) (name : String) : Option String :=
  (environment.find? fun entry => entry.1 == name).map Prod.snd

theorem isSome_get?_iff {environment : Environment} {name : String} :
    (environment.get? name).isSome = true ↔ name ∈ environment.map Prod.fst := by
  simp [get?, List.find?_isSome]

/-- The environment with a variable set. -/
def set (environment : Environment) (name value : String) : Environment :=
  if (environment.get? name).isSome then
    environment.map fun entry => if entry.1 == name then (name, value) else entry
  else environment ++ [(name, value)]

/-- A character in lower case, as far as the result is an ASCII letter.  Besides the
capital letters this is the case of the Kelvin sign. -/
def lowerAscii (c : Char) : Char := if c = '\u212A' then 'k' else c.toLower

/-- Whether a name is another one in any mixture of cases.  The other one is in lower
case. -/
def namesLower (name lower : String) : Bool := name.toList.map lowerAscii == lower.toList

/-- The value of the last variable with a name in any mixture of cases.  The name is
given in lower case. -/
def getAnyCase? (environment : Environment) (lower : String) : Option String :=
  (environment.reverse.find? fun entry => namesLower entry.1 lower).map Prod.snd

end Environment

end MailConnection
