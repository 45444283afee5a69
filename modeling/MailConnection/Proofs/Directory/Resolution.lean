import MailConnection.Directory
import MailConnection.Proofs.ConnectionString.Decoded

/-!
# What a directory answers

A directory of accepted connections has three answers to a name: there is no such
connection, its password is missing, or here is the account.  `Resolution` says which of
the last two it is and what the account is.  It reads the environment only where a login
stands without a password, and there only up to the first variable that is set.

`account_ofList` puts this together with the checks of a configuration: an entry that was
accepted has a connection string that can be read (`NamedConnection.decode_of_read`), so
that nothing else can happen, and what was read has its authentication bit in step with its
login (`Account.Decoded`), so that filling in a password changes the password and nothing
else.
-/

namespace MailConnection

namespace Directory

/-! ## Filling in a password -/

/-- What an account that was read comes to in an environment. -/
inductive Resolution (environment : Environment) (connection : NamedConnection)
    (account : Account) : Except LookupError Account → Prop
  | complete (hcomplete : account.login = none ∨ account.password ≠ none) :
    Resolution environment connection account (.ok account)
  | found {login name value : String} {before after : List String}
    (hlogin : account.login = some login) (hpassword : account.password = none)
    (hnames : Password.variableNames connection login = before ++ name :: after)
    (hunset : ∀ earlier ∈ before, environment.get? earlier = none)
    (hset : environment.get? name = some value) :
    Resolution environment connection account (.ok { account with password := some value })
  | missing {login : String}
    (hlogin : account.login = some login) (hpassword : account.password = none)
    (hunset : ∀ name ∈ Password.variableNames connection login, environment.get? name = none) :
    Resolution environment connection account
      (.error (.passwordNotFound connection.id (Password.variableNames connection login)))

section
variable {environment : Environment} {connection : NamedConnection} {account : Account}
  {result : Except LookupError Account}

theorem fillPassword_of_complete (h : account.login = none ∨ account.password ≠ none) :
    fillPassword environment connection account = .ok account := by
  unfold fillPassword
  split
  · -- a login without a password is just what `h` excludes
    rename_i login hlogin hpassword
    rcases h with hnone | hsome
    · rw [hlogin] at hnone
      exact absurd hnone (Option.some_ne_none login)
    · exact absurd hpassword hsome
  · rfl

theorem fillPassword_of_incomplete {login : String} (hlogin : account.login = some login)
    (hpassword : account.password = none) :
    fillPassword environment connection account =
      match Password.firstSet? environment (Password.variableNames connection login) with
      | some (_, value) => .ok (account.setLogin (some login) (some value))
      | none =>
        .error (.passwordNotFound connection.id (Password.variableNames connection login)) := by
  simp only [fillPassword, hlogin, hpassword, Password.find?]
  cases Password.firstSet? environment (Password.variableNames connection login) <;> rfl

/-- An account whose authentication bit follows its login keeps all but the password. -/
theorem setLogin_login (hauth : account.flags.authenticate = account.login.isSome)
    (password : Option String) :
    account.setLogin account.login password = { account with password := password } := by
  simp only [Account.setLogin, ← hauth]

theorem resolution_fillPassword (hauth : account.flags.authenticate = account.login.isSome) :
    Resolution environment connection account
      (fillPassword environment connection account) := by
  by_cases hcomplete : account.login = none ∨ account.password ≠ none
  · rw [fillPassword_of_complete hcomplete]
    exact .complete hcomplete
  · obtain ⟨hnone, hpassword⟩ := not_or.mp hcomplete
    rw [Classical.not_not] at hpassword
    obtain ⟨login, hlogin⟩ := Option.ne_none_iff_exists'.mp hnone
    rw [fillPassword_of_incomplete hlogin hpassword]
    split
    · -- the login is stored once more, so that the bit for authentication is set anew
      rename_i name value hfirst
      obtain ⟨before, after, hnames, hunset, hset⟩ := Password.firstSet?_eq_some_iff.mp hfirst
      rw [← hlogin, setLogin_login hauth]
      exact .found hlogin hpassword hnames hunset hset
    · rename_i hfirst
      exact .missing hlogin hpassword (Password.firstSet?_eq_none_iff.mp hfirst)

theorem fillPassword_of_resolution (hauth : account.flags.authenticate = account.login.isSome)
    (h : Resolution environment connection account result) :
    fillPassword environment connection account = result := by
  cases h with
  | complete hcomplete => exact fillPassword_of_complete hcomplete
  | found hlogin hpassword hnames hunset hset =>
    have hfirst := Password.firstSet?_eq_some_iff.mpr ⟨_, _, hnames, hunset, hset⟩
    rw [fillPassword_of_incomplete hlogin hpassword, hfirst, ← hlogin]
    exact congrArg Except.ok (setLogin_login hauth _)
  | missing hlogin hpassword hunset =>
    rw [fillPassword_of_incomplete hlogin hpassword,
      Password.firstSet?_eq_none_iff.mpr hunset]

theorem fillPassword_eq_iff (hauth : account.flags.authenticate = account.login.isSome) :
    fillPassword environment connection account = result ↔
      Resolution environment connection account result := by
  constructor
  · rintro rfl
    exact resolution_fillPassword hauth
  · exact fillPassword_of_resolution hauth

theorem Resolution.finished (hread : account.Decoded) {answered : Account}
    (h : Resolution environment connection account (.ok answered)) :
    answered.password.isSome = answered.login.isSome ∧
      answered.flags.authenticate = answered.login.isSome := by
  cases h with
  | complete hcomplete =>
    refine ⟨?_, hread.authenticate⟩
    rcases hcomplete with hlogin | hpassword
    · rw [hlogin, hread.password hlogin]
    · have hlogin : account.login ≠ none := fun hlogin => hpassword (hread.password hlogin)
      rw [Option.isSome_iff_ne_none.mpr hpassword, Option.isSome_iff_ne_none.mpr hlogin]
  | found hlogin hpassword hnames hunset hset =>
    refine ⟨?_, hread.authenticate⟩
    rw [hlogin]
    rfl

theorem fillPassword_congr {other : Environment}
    (h : ∀ login, account.login = some login →
      ∀ name ∈ Password.variableNames connection login,
        environment.get? name = other.get? name) :
    fillPassword environment connection account = fillPassword other connection account := by
  unfold fillPassword
  split
  · rename_i login hlogin _
    simp only [Password.find?, Password.firstSet?_congr (h login hlogin)]
  · rfl

end

/-! ## The answers of a directory -/

/-- What a directory answers to the name of a connection, given the account that its
connection string describes. -/
structure Resolves (directory : Directory) (id : String) (connection : NamedConnection)
    (described : Account) : Prop where
  resolution : ∀ environment result, directory.account environment id = result ↔
    Resolution environment connection described result
  finished : ∀ environment account, directory.account environment id = .ok account →
    account.password.isSome = account.login.isSome ∧
      account.flags.authenticate = account.login.isSome
  searched : ∀ environment other : Environment,
    (∀ login, described.login = some login →
      ∀ name ∈ Password.variableNames connection login,
        environment.get? name = other.get? name) →
      directory.account environment id = directory.account other id
  named : ∀ name, connection.passwordVariable = some name →
    ∀ environment other : Environment, environment.get? name = other.get? name →
      directory.account environment id = directory.account other id

section
variable {directory : Directory} {id : String} {connection : NamedConnection}
  {described : Account}

theorem account_of_get_error {error : LookupError} (hget : directory.get id = .error error)
    (environment : Environment) : directory.account environment id = .error error := by
  rw [account, hget]
  rfl

theorem account_eq_fillPassword (hget : directory.get id = .ok connection)
    (hdecode : ConnectionString.decode connection.connection = .ok described)
    (environment : Environment) :
    directory.account environment id = fillPassword environment connection described := by
  simp only [account, hget, hdecode, bind, Except.bind]

theorem resolves_of_decode (hget : directory.get id = .ok connection)
    (hdecode : ConnectionString.decode connection.connection = .ok described) :
    Resolves directory id connection described := by
  have hread := ConnectionString.decoded_of_decode hdecode
  have haccount := account_eq_fillPassword hget hdecode
  have hresolution (environment : Environment) (result : Except LookupError Account) :
      directory.account environment id = result ↔
        Resolution environment connection described result := by
    rw [haccount, fillPassword_eq_iff hread.authenticate]
  have hsearched (environment other : Environment)
      (h : ∀ login, described.login = some login →
        ∀ name ∈ Password.variableNames connection login,
          environment.get? name = other.get? name) :
      directory.account environment id = directory.account other id :=
    calc directory.account environment id
        = fillPassword environment connection described := haccount environment
      _ = fillPassword other connection described := fillPassword_congr h
      _ = directory.account other id := (haccount other).symm
  refine ⟨hresolution, ?_, hsearched, ?_⟩
  · intro environment account hok
    exact ((hresolution environment _).mp hok).finished hread
  · -- a variable that is named is the only one that is searched
    intro name hname environment other hagree
    refine hsearched environment other fun login _ searched hsearch => ?_
    have hsingle : Password.variableNames connection login = [name] := by
      simp only [Password.variableNames, hname]
    rw [hsingle, List.mem_singleton] at hsearch
    rw [hsearch, hagree]

end

/-- **Looking up an account** in a directory of accepted connections.  It fails for want of a
connection exactly if there is none with the name.  Otherwise the last connection with the
name counts, its connection string can be read, and the answer is the one of `Resolves`. -/
theorem account_ofList {connections : List NamedConnection}
    (haccepted : ∀ connection ∈ connections, connection.Accepted) (id : String) :
    (∀ environment name,
      (ofList connections).account environment id = .error (.connectionNotFound name) ↔
        name = id ∧ ∀ connection ∈ connections, connection.id ≠ id) ∧
    ((∃ connection ∈ connections, connection.id = id) →
      ∃ connection described, (ofList connections).get id = .ok connection ∧
        (connection.id = id ∧ ∃ before after, connections = before ++ connection :: after ∧
          ∀ later ∈ after, later.id ≠ id) ∧
        ConnectionString.decode connection.connection = .ok described ∧
        Resolves (ofList connections) id connection described) := by
  cases hfind : (ofList connections).get? id with
  | none =>
    have hget : (ofList connections).get id = .error (.connectionNotFound id) := by
      rw [get, hfind]
    have habsent := get?_ofList_eq_none_iff.mp hfind
    refine ⟨?_, ?_⟩
    · intro environment name
      rw [account_of_get_error hget, Except.error.injEq, LookupError.connectionNotFound.injEq]
      exact ⟨fun hname => ⟨hname.symm, habsent⟩, fun h => h.1.symm⟩
    · rintro ⟨connection, hmem, hid⟩
      exact absurd hid (habsent connection hmem)
  | some connection =>
    have hget : (ofList connections).get id = .ok connection := by rw [get, hfind]
    have hlast := get?_ofList_eq_some_iff.mp hfind
    have hmem : connection ∈ connections := by
      obtain ⟨_, before, after, hsplit, _⟩ := hlast
      rw [hsplit]
      exact List.mem_append_right before List.mem_cons_self
    obtain ⟨value, hread⟩ := haccepted connection hmem
    obtain ⟨described, hdecode⟩ := NamedConnection.decode_of_read hread
    have hresolves := resolves_of_decode hget hdecode
    refine ⟨?_, fun _ => ⟨connection, described, hget, hlast, hdecode, hresolves⟩⟩
    intro environment name
    constructor
    · intro herror
      cases (hresolves.resolution environment _).mp herror
    · rintro ⟨_, habsent⟩
      exact absurd hlast.1 (habsent connection hmem)

/-- Two connections of one name, and one that names the variable of its password. -/
def shadowed : List NamedConnection :=
  [⟨"work", "imap://h", none⟩, ⟨"home", "smtp://bob@h", some "BOB"⟩,
    ⟨"work", "imap+ssl+://alice@h", none⟩]

/-- The account of the connection that names a variable, where the variable is blank. -/
def blankPassword : Account where
  id := none
  protocol := some "smtp"
  address := some "h"
  port := 587
  flags := ⟨SecurityMode.none, true, 0⟩
  login := some "bob"
  password := some ""
  domain := none

theorem account_ofList_shadowed :
    (∀ connection ∈ shadowed, connection.Accepted) ∧
    (ofList shadowed).account [("BOB", "")] "play" = .error (.connectionNotFound "play") ∧
    (ofList shadowed).account [("BOB", "")] "home" = .ok blankPassword ∧
    ∃ connection described, (ofList shadowed).get "work" = .ok connection ∧
      (connection.id = "work" ∧ ∃ before after, shadowed = before ++ connection :: after ∧
        ∀ later ∈ after, later.id ≠ "work") ∧
      ConnectionString.decode connection.connection = .ok described ∧
      Resolves (ofList shadowed) "work" connection described := by
  have haccepted : ∀ connection ∈ shadowed, connection.Accepted := by
    simp only [shadowed, List.forall_mem_cons]
    refine ⟨⟨.record [(.text "id", .text "work"), (.text "connection", .text "imap://h")], rfl⟩,
      ⟨.record [(.text "id", .text "home"), (.text "connection", .text "smtp://bob@h"),
        (.text "password_env", .text "BOB")], rfl⟩,
      ⟨.record [(.text "id", .text "work"), (.text "connection", .text "imap+ssl+://alice@h")],
        rfl⟩, by simp⟩
  refine ⟨haccepted, ?_, rfl, ?_⟩
  · exact ((account_ofList haccepted "play").1 _ _).mpr ⟨rfl, by decide⟩
  · exact (account_ofList haccepted "work").2 ⟨⟨"work", "imap://h", none⟩, by decide, rfl⟩

end Directory

end MailConnection
