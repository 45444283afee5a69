import MailConnection.Environment
import MailConnection.NamedConnection

/-!
# Passwords from the environment

A connection string may name a login without a password.  The password is then
taken from an environment variable: the one that the connection names, or else
one that is formed from its identifier, or else one that is formed from the login
and so is shared by all connections of one mailbox.  A variable that is set but
empty is a blank password.
-/

namespace MailConnection.Password

/-! ## Variables -/

/-- A text as a part of a variable name: letters in upper case, digits as they are,
and a low line for anything else. -/
def nameChar (c : Char) : Char := if c.isAlphanum then c.toUpper else '_'

/-- A text as a part of a variable name. -/
def variablePart (s : String) : String := String.ofList (s.toList.map nameChar)

/-- The variable for one connection. -/
def connectionVariable (id : String) : String :=
  "HOSTAUTH_CONNECTION_" ++ variablePart id ++ "_PASSWORD"

/-- The variable for one login. -/
def loginVariable (login : String) : String :=
  "HOSTAUTH_LOGIN_" ++ variablePart login ++ "_PASSWORD"

/-- The variables that may hold the password of a connection, in the order in which
they are searched. -/
def variableNames (connection : NamedConnection) (login : String) : List String :=
  match connection.passwordVariable with
  | some name => [name]
  | none =>
    let trimmed := Text.trimString login
    connectionVariable connection.id ::
      (if trimmed = "" then [] else [loginVariable trimmed])

/-! ## Searching -/

/-- The first of some variables that is set, with its value. -/
def firstSet? (environment : Environment) (names : List String) : Option (String × String) :=
  names.findSome? fun name => (environment.get? name).map fun value => (name, value)

/-- The password of a connection, if one of its variables is set. -/
def find? (environment : Environment) (connection : NamedConnection) (login : String) :
    Option String :=
  (firstSet? environment (variableNames connection login)).map Prod.snd

section
variable {environment other : Environment} {names : List String}

theorem firstSet?_eq_none_iff :
    firstSet? environment names = none ↔ ∀ name ∈ names, environment.get? name = none := by
  simp only [firstSet?, List.findSome?_eq_none_iff, Option.map_eq_none_iff]

theorem firstSet?_eq_some_iff {name value : String} :
    firstSet? environment names = some (name, value) ↔
      ∃ before after, names = before ++ name :: after ∧
        (∀ earlier ∈ before, environment.get? earlier = none) ∧
        environment.get? name = some value := by
  simp only [firstSet?, List.findSome?_eq_some_iff, Option.map_eq_none_iff,
    Option.map_eq_some_iff, Prod.mk.injEq]
  constructor
  · rintro ⟨before, _, after, hnames, ⟨_, hset, rfl, rfl⟩, hunset⟩
    exact ⟨before, after, hnames, hunset, hset⟩
  · rintro ⟨before, after, hnames, hunset, hset⟩
    exact ⟨before, name, after, hnames, ⟨value, hset, rfl, rfl⟩, hunset⟩

/-- Only the variables that are searched matter. -/
theorem firstSet?_congr (h : ∀ name ∈ names, environment.get? name = other.get? name) :
    firstSet? environment names = firstSet? other names := by
  induction names with
  | nil => rfl
  | cons name rest ih =>
    have hname := h name List.mem_cons_self
    have hrest := ih fun later hlater => h later (List.mem_cons_of_mem name hlater)
    simp only [firstSet?, List.findSome?_cons, hname] at hrest ⊢
    rw [hrest]

end

/-- What is said when no variable holds the password of a connection. -/
def missingMessage (id : String) (names : List String) : String :=
  "Missing password for connection '" ++ id ++ "': set one of " ++ ", ".intercalate names

end MailConnection.Password
