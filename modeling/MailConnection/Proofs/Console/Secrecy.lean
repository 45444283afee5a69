import MailConnection.Proofs.Console.CommandLine
import MailConnection.Proofs.ConnectionString.Veil
import Mathlib.Data.List.Forall2

/-!
# Passwords are not printed

A password gets into the program in one of two ways: in a connection string, given as an
argument or configured, or in an environment variable.  Unless it is asked for, nothing of it
gets out, neither in what is printed nor in notes or errors: two runs that differ in passwords
only have the same outcome.

* `decodeReport_eq` and `listReport_eq`: a command prints the same for connection strings that
  are alike, because it prints accounts with their passwords veiled.
* `agree_load`: configurations that differ in passwords only are accepted with connections that
  are alike, or refused in the same words.
* `agree_account`: where the same variables are set, the same account is found, but for its
  password.

`run_hides_passwords` puts these together.
-/

namespace MailConnection.Console

open ConnectionString (Alike DifferInPassword credentialed alike_of_differInPassword)

/-! ## What is printed -/

/-- All that is printed of a password that is not asked for is that it is there. -/
theorem accountText_veiled (account : Account) :
    accountText false account.veiled = accountText false account := by
  cases hpassword : account.password <;>
    simp [accountText, accountFields, Account.veiled, shownPassword, hpassword]

theorem accountText_eq {account other : Account} (h : account.SameButPassword other) :
    accountText false account = accountText false other := by
  rw [← accountText_veiled account, h, accountText_veiled other]

theorem decodeReport_eq {s t : String} (h : Alike s t) (verbose : Bool) :
    decodeReport verbose s false = decodeReport verbose t false := by
  have hdecode := h.agree_decode
  simp only [decodeReport, h.notes_eq]
  generalize ConnectionString.decode s = account at hdecode ⊢
  generalize ConnectionString.decode t = other at hdecode ⊢
  cases hdecode with
  | error error => rfl
  | ok hsame => simp only [accountText_eq hsame]

/-! ## Connections that are alike -/

/-- Connections with one name whose strings are alike. -/
structure SimilarConnections (connection other : NamedConnection) : Prop where
  id : connection.id = other.id
  connection : Alike connection.connection other.connection

section
variable {connections others : List NamedConnection}

theorem map_id_eq (h : List.Forall₂ SimilarConnections connections others) :
    connections.map (·.id) = others.map (·.id) := by
  induction h with
  | nil => rfl
  | cons hfirst _ ih => rw [List.map_cons, List.map_cons, hfirst.id, ih]

/-- The order of the names in a directory is all that its building depends on. -/
theorem forall₂_insert {connection other : NamedConnection}
    (h : SimilarConnections connection other)
    (hall : List.Forall₂ SimilarConnections connections others) :
    List.Forall₂ SimilarConnections (Directory.insert connection connections)
      (Directory.insert other others) := by
  induction hall with
  | nil => exact .cons h .nil
  | cons hfirst hrest ih =>
    simp only [Directory.insert, hfirst.id, h.id]
    split
    · exact .cons h hrest
    · exact .cons hfirst ih

theorem forall₂_foldl_put (h : List.Forall₂ SimilarConnections connections others)
    {directory start : Directory}
    (hstart : List.Forall₂ SimilarConnections directory.connections start.connections) :
    List.Forall₂ SimilarConnections (connections.foldl Directory.put directory).connections
      (others.foldl Directory.put start).connections := by
  induction h generalizing directory start with
  | nil => exact hstart
  | cons hfirst _ ih => exact ih (forall₂_insert hfirst hstart)

theorem forall₂_ofList (h : List.Forall₂ SimilarConnections connections others) :
    List.Forall₂ SimilarConnections (Directory.ofList connections).connections
      (Directory.ofList others).connections :=
  forall₂_foldl_put h .nil

theorem flatMap_notes_eq (h : List.Forall₂ SimilarConnections connections others) :
    (connections.flatMap fun entry => ConnectionString.notes entry.connection) =
      others.flatMap fun entry => ConnectionString.notes entry.connection := by
  induction h with
  | nil => rfl
  | cons hfirst _ ih => simp only [List.flatMap_cons, hfirst.connection.notes_eq, ih]

/-- A line holds no password at all. -/
theorem connectionLine_eq {connection other : NamedConnection}
    (h : SimilarConnections connection other) :
    connectionLine connection = connectionLine other := by
  unfold connectionLine
  rw [h.id]
  refine h.connection.agree_decode.map_eq fun {account account'} hsame => ?_
  have hveiled : account.veiled = account'.veiled := hsame
  have hprotocol : account.protocol = account'.protocol := (congrArg Account.protocol hveiled :)
  have haddress : account.address = account'.address := (congrArg Account.address hveiled :)
  have hport : account.port = account'.port := (congrArg Account.port hveiled :)
  rw [hprotocol, haddress, hport]

theorem mapM_connectionLine_eq (h : List.Forall₂ SimilarConnections connections others) :
    connections.mapM connectionLine = others.mapM connectionLine := by
  induction h with
  | nil => rfl
  | cons hfirst _ ih => simp only [List.mapM_cons, connectionLine_eq hfirst, ih]

end

theorem listReport_eq {directory other : Directory}
    (h : List.Forall₂ SimilarConnections directory.connections other.connections)
    (showNotes : Bool) : listReport showNotes directory = listReport showNotes other := by
  have hnil : directory.connections = [] ↔ other.connections = [] := by
    rw [← List.length_eq_zero_iff, ← List.length_eq_zero_iff, h.length_eq]
  simp only [listReport, hnil, flatMap_notes_eq h, mapM_connectionLine_eq h]

/-! ## Configurations that are alike -/

/-- Settings with connections that are alike, and one level of the log. -/
structure SimilarSettings (settings other : Settings) : Prop where
  connections : List.Forall₂ SimilarConnections settings.connections other.connections
  logLevel : settings.logLevel = other.logLevel

/-- Entries of a configuration that are accepted as one connection, but for a password in its
string. -/
def DifferInPasswordEntry (value other : Value) : Prop :=
  ∃ entry entry', NamedConnection.read value = .ok entry ∧
    NamedConnection.read other = .ok entry' ∧ entry.id = entry'.id ∧
    DifferInPassword entry.connection entry'.connection

section
variable {items others : List Value}

theorem readEntries_of_differInPassword (h : List.Forall₂ DifferInPasswordEntry items others)
    (start : Nat) :
    ∃ connections connections', Settings.readEntries start items = .ok connections ∧
      Settings.readEntries start others = .ok connections' ∧
      List.Forall₂ SimilarConnections connections connections' := by
  induction h generalizing start with
  | nil => exact ⟨[], [], rfl, rfl, .nil⟩
  | cons hfirst _ ih =>
    obtain ⟨entry, entry', hread, hread', hid, hstring⟩ := hfirst
    obtain ⟨rest, rest', hrest, hrest', hsimilar⟩ := ih (start + 1)
    refine ⟨entry :: rest, entry' :: rest', ?_, ?_,
      .cons ⟨hid, alike_of_differInPassword hstring⟩ hsimilar⟩
    · simp only [Settings.readEntries, hread, hrest]
    · simp only [Settings.readEntries, hread', hrest']

/-- A list with a name twice is refused, whatever the strings are. -/
theorem agree_readConnections (h : List.Forall₂ DifferInPasswordEntry items others) :
    Agree (List.Forall₂ SimilarConnections) (Settings.readConnections (.list items))
      (Settings.readConnections (.list others)) := by
  obtain ⟨connections, connections', hread, hread', hsimilar⟩ :=
    readEntries_of_differInPassword h 0
  simp only [Settings.readConnections, hread, hread', bind, Except.bind, map_id_eq hsimilar]
  split
  · exact .ok hsimilar
  · exact .error _

theorem readNotes_of_differInPassword (h : List.Forall₂ DifferInPasswordEntry items others) :
    items.flatMap NamedConnection.readNotes = others.flatMap NamedConnection.readNotes := by
  induction h with
  | nil => rfl
  | cons hfirst _ ih =>
    obtain ⟨entry, entry', hread, hread', _, hstring⟩ := hfirst
    have hnotes := (alike_of_differInPassword hstring).notes_eq
    simp only [List.flatMap_cons, NamedConnection.readNotes_of_read hread,
      NamedConnection.readNotes_of_read hread', hnotes, ih]

end

/-- Fields of a configuration with its connections among them. -/
def fieldsAround (before after : List (Value × Value)) (items : List Value) :
    List (Value × Value) :=
  before ++ (.text "connections", .list items) :: after

section
variable {before after : List (Value × Value)} {items others : List Value}

theorem lookup_connections (before after : List (Value × Value)) (items : List Value) :
    Value.lookup "connections" (fieldsAround before after items) =
      (Value.lookup "connections" before).or (some (.list items)) := by
  simp [fieldsAround, Value.lookup_append, Value.lookup, Value.sameKey_text]

theorem lookup_logLevel (before after : List (Value × Value)) (items : List Value) :
    Value.lookup "log_level" (fieldsAround before after items) =
      (Value.lookup "log_level" before).or (Value.lookup "log_level" after) := by
  simp [fieldsAround, Value.lookup_append, Value.lookup, Value.sameKey_text]

theorem extraErrors_fieldsAround (before after : List (Value × Value)) (items : List Value) :
    Settings.extraErrors (fieldsAround before after items) =
      Settings.extraErrors before ++ Settings.extraErrors after := by
  simp [fieldsAround, Settings.extraErrors, Settings.fieldNames]

theorem agree_checkField (before after : List (Value × Value))
    (h : List.Forall₂ DifferInPasswordEntry items others) :
    Agree (List.Forall₂ SimilarConnections)
      (Settings.checkField (fieldsAround before after items) "connections" []
        Settings.readConnections)
      (Settings.checkField (fieldsAround before after others) "connections" []
        Settings.readConnections) := by
  have hrefl : ∀ connections, List.Forall₂ SimilarConnections connections connections :=
    fun connections => List.forall₂_same.mpr fun _ _ => ⟨rfl, Alike.refl _⟩
  simp only [Settings.checkField, lookup_connections]
  cases Value.lookup "connections" before with
  | some value =>
    -- the first field of the name counts, and it is the same on both sides
    exact Agree.refl hrefl _
  | none => exact (agree_readConnections h).mapError _

/-- The other fields are not looked at for the connections, nor the connections for the other
fields. -/
theorem agree_read (h : List.Forall₂ DifferInPasswordEntry items others) :
    Agree SimilarSettings (Settings.read (fieldsAround before after items))
      (Settings.read (fieldsAround before after others)) := by
  have hlevel : Settings.checkField (fieldsAround before after items) "log_level"
      LogLevel.warning Settings.readLogLevel =
        Settings.checkField (fieldsAround before after others) "log_level" LogLevel.warning
          Settings.readLogLevel := by
    simp only [Settings.checkField, lookup_logLevel]
  have hconnections := agree_checkField before after h
  simp only [Settings.read, hlevel, extraErrors_fieldsAround]
  generalize Settings.checkField _ "connections" _ _ = found at hconnections ⊢
  generalize Settings.checkField _ "connections" _ _ = found' at hconnections ⊢
  generalize Settings.checkField _ "log_level" _ _ = level
  generalize Settings.extraErrors before ++ Settings.extraErrors after = extra
  cases hconnections with
  | error errors => exact .error _
  | ok hsimilar =>
    cases level with
    | error errors => exact .error _
    | ok level =>
      cases extra with
      | nil => exact .ok ⟨hsimilar, rfl⟩
      | cons error errors => exact .error _

/-- Configurations that differ in passwords are accepted alike, or refused in the same words. -/
theorem agree_load {environment environment' : Environment} {files files' : Files}
    (hfields : Settings.fields environment files = .ok (fieldsAround before after items))
    (hfields' : Settings.fields environment' files' = .ok (fieldsAround before after others))
    (h : List.Forall₂ DifferInPasswordEntry items others) :
    Agree SimilarSettings (Settings.load environment files)
      (Settings.load environment' files') := by
  simp only [Settings.load, hfields, hfields']
  exact (agree_read h).mapError _

theorem loadNotes_eq {environment environment' : Environment} {files files' : Files}
    (hfields : Settings.fields environment files = .ok (fieldsAround before after items))
    (hfields' : Settings.fields environment' files' = .ok (fieldsAround before after others))
    (h : List.Forall₂ DifferInPasswordEntry items others) :
    Settings.loadNotes environment files = Settings.loadNotes environment' files' := by
  simp only [Settings.loadNotes, hfields, hfields', lookup_connections]
  cases Value.lookup "connections" before with
  | some value => rfl
  | none => exact readNotes_of_differInPassword h

theorem list_report_eq {environment environment' : Environment} {files files' : Files}
    (hfields : Settings.fields environment files = .ok (fieldsAround before after items))
    (hfields' : Settings.fields environment' files' = .ok (fieldsAround before after others))
    (h : List.Forall₂ DifferInPasswordEntry items others) (verbose : Bool) :
    Command.report environment files verbose .list =
      Command.report environment' files' verbose .list := by
  have hload := agree_load hfields hfields' h
  simp only [Command.report, withDirectory, loadNotes_eq hfields hfields' h]
  generalize Settings.load environment files = loaded at hload ⊢
  generalize Settings.load environment' files' = loaded' at hload ⊢
  cases hload with
  | error error => rfl
  | ok hsimilar =>
    simp only [hsimilar.logLevel, listReport_eq (forall₂_ofList hsimilar.connections)]

end

/-! ## Passwords from the environment -/

section
variable {environment other : Environment}

/-- A variable is searched for the password of a connection with some name, because its string
has a login and no password. -/
def Searched (connections : List NamedConnection) (id name : String) : Prop :=
  ∃ connection ∈ connections, connection.id = id ∧ ∃ account login,
    ConnectionString.decode connection.connection = .ok account ∧ account.login = some login ∧
      account.password = none ∧ name ∈ Password.variableNames connection login

/-- Whether a password is found depends only on which variables are set. -/
theorem isSome_find?_eq {connection : NamedConnection} {login : String}
    (h : ∀ name ∈ Password.variableNames connection login,
      (environment.get? name).isSome = (other.get? name).isSome) :
    (Password.find? environment connection login).isSome =
      (Password.find? other connection login).isSome := by
  rw [Password.find?, Password.find?, Option.isSome_map, Option.isSome_map, Bool.eq_iff_iff,
    Password.firstSet?, Password.firstSet?, List.findSome?_isSome_iff, List.findSome?_isSome_iff]
  simp only [Option.isSome_map]
  exact exists_congr fun name => and_congr_right fun hname => by rw [h name hname]

theorem agree_fillPassword {connection : NamedConnection} {account : Account}
    (h : ∀ login, account.login = some login → account.password = none →
      ∀ name ∈ Password.variableNames connection login,
        (environment.get? name).isSome = (other.get? name).isSome) :
    Agree Account.SameButPassword (Directory.fillPassword environment connection account)
      (Directory.fillPassword other connection account) := by
  unfold Directory.fillPassword
  split
  · rename_i login hlogin hpassword
    have hfound := isSome_find?_eq (h login hlogin hpassword)
    cases hfind : Password.find? environment connection login with
    | none =>
      have hfind' : Password.find? other connection login = none := by simpa [hfind] using hfound
      simp only [hfind']
      exact .error _
    | some password =>
      obtain ⟨password', hfind'⟩ := Option.isSome_iff_exists.mp (by simpa [hfind] using hfound)
      simp only [hfind']
      exact .ok rfl
  · exact .ok rfl

/-- Where the same variables are set, the same account is found, but for its password. -/
theorem agree_account {connections : List NamedConnection} {id : String}
    (h : ∀ name, Searched connections id name →
      (environment.get? name).isSome = (other.get? name).isSome) :
    Agree Account.SameButPassword ((Directory.ofList connections).account environment id)
      ((Directory.ofList connections).account other id) := by
  unfold Directory.account Directory.get
  cases hget : (Directory.ofList connections).get? id with
  | none => exact .error _
  | some connection =>
    obtain ⟨hid, before, after, rfl, _⟩ := Directory.get?_ofList_eq_some_iff.mp hget
    -- what the string of the connection says is the same in both environments
    simp only [bind, Except.bind]
    cases hdecode : ConnectionString.decode connection.connection with
    | error error => exact .error _
    | ok account =>
      refine agree_fillPassword fun login hlogin hpassword name hname => h name ?_
      exact ⟨connection, by simp, hid, account, login, hdecode, hlogin, hpassword, hname⟩

theorem show_report_eq {files files' : Files} {settings : Settings} {id : String}
    (hload : Settings.load environment files = .ok settings)
    (hload' : Settings.load other files' = .ok settings) (hlevel : settings.logLevel ≠ .debug)
    (h : ∀ name, Searched settings.connections id name →
      (environment.get? name).isSome = (other.get? name).isSome) :
    Command.report environment files false (.show id false) =
      Command.report other files' false (.show id false) := by
  -- a note would name the variable in which the password was found
  have hquiet : (settings.logLevel == .debug) = false := beq_eq_false_iff_ne.mpr hlevel
  have haccount := agree_account h
  simp only [Command.report, withDirectory, hload, hload', hquiet, showReport, Bool.false_or,
    Bool.false_eq_true, if_false]
  generalize (Directory.ofList settings.connections).account environment id = account
    at haccount ⊢
  generalize (Directory.ofList settings.connections).account other id = account' at haccount ⊢
  cases haccount with
  | error error => rfl
  | ok hsame => simp only [accountText_eq hsame]

end

/-! ## Runs -/

theorem run_eq_of_read {arguments : List String} {command : Command} {verbose : Bool}
    (hread : Command.read unknownPort arguments = .ok (command, verbose))
    (environment : Environment) (files : Files) :
    run arguments environment files = (command.report environment files verbose).outcome := by
  rw [run, hread]

theorem isPlain_credentialed {scheme : String} (h : isPlain scheme = true)
    (user password tail : String) :
    isPlain (credentialed scheme user password tail) = true := by
  rw [isPlain, ConnectionString.toList_credentialed]
  cases hscheme : scheme.toList with
  | nil => rfl
  | cons c rest => simpa [isPlain, hscheme] using h

/-- **Passwords reach the output only if they are asked for.**

* `decode` ends and prints the same for any two passwords in a connection string, in its errors
  and notes as well.
* `list` does so for any two configurations that are the same fields, connections apart, and
  whose connections are the same but for passwords.
* `show` does so for any two environments with the same settings in which the same variables of
  its connection are set, unless notes are shown. -/
theorem run_hides_passwords :
    (∀ (scheme user p q tail : String) (switches : List String) (environment : Environment)
      (files : Files),
      isPlain scheme = true → scheme.toList.all ConnectionString.inScheme = true →
      user.toList.all ConnectionString.inScheme = true →
      p.toList.all ConnectionString.inAuthority = true →
      q.toList.all ConnectionString.inAuthority = true →
      (∀ text ∈ switches, text = "-v" ∨ text = "--verbose") →
      run (switches ++ ["decode", credentialed scheme user p tail]) environment files =
        run (switches ++ ["decode", credentialed scheme user q tail]) environment files) ∧
    (∀ (before after : List (Value × Value)) (items others : List Value)
      (switches : List String) (environment environment' : Environment) (files files' : Files),
      Settings.fields environment files = .ok (fieldsAround before after items) →
      Settings.fields environment' files' = .ok (fieldsAround before after others) →
      List.Forall₂ DifferInPasswordEntry items others →
      (∀ text ∈ switches, text = "-v" ∨ text = "--verbose") →
      run (switches ++ ["list"]) environment files =
        run (switches ++ ["list"]) environment' files') ∧
    (∀ (arguments : List String) (id : String) (settings : Settings)
      (environment environment' : Environment) (files files' : Files),
      Command.read unknownPort arguments = .ok (.show id false, false) →
      Settings.load environment files = .ok settings →
      Settings.load environment' files' = .ok settings →
      settings.logLevel ≠ .debug →
      (∀ name, Searched settings.connections id name →
        (environment.get? name).isSome = (environment'.get? name).isSome) →
      run arguments environment files = run arguments environment' files') := by
  refine ⟨?decoded, ?listed, ?shown⟩
  case decoded =>
    intro scheme user p q tail switches environment files hplain hscheme huser hp hq hswitches
    have halike := alike_of_differInPassword (.there tail hscheme huser hp hq)
    rw [run_eq_of_read
        (Command.read_decode hswitches unknownPort (isPlain_credentialed hplain user p tail)),
      run_eq_of_read
        (Command.read_decode hswitches unknownPort (isPlain_credentialed hplain user q tail))]
    simp only [Command.report, decodeReport_eq halike]
  case listed =>
    intro before after items others switches environment environment' files files' hfields
      hfields' hitems hswitches
    rw [run_eq_of_read (Command.read_list hswitches unknownPort),
      run_eq_of_read (Command.read_list hswitches unknownPort),
      list_report_eq hfields hfields' hitems]
  case shown =>
    intro arguments id settings environment environment' files files' hread hload hload' hlevel
      hset
    rw [run_eq_of_read hread, run_eq_of_read hread, show_report_eq hload hload' hlevel hset]

/-- No files at all. -/
def noFiles : Files := ⟨⟨"/", []⟩, fun _ => .absent⟩

/-- A connection string with marks in its login and a token that nobody knows. -/
def workString (password : String) : String :=
  credentialed "imap+foo" "al@ice" password "mail/d"

/-- Two connections, the second one with its password in a variable. -/
def twoConnections (first second : String) : Environment :=
  [("HOSTAUTH_CONNECTIONS",
      "[\x7b\"id\":\"work\",\"connection\":\"" ++ workString first ++
        "\"\x7d,\x7b\"id\":\"home\",\"connection\":\"pop3://bob@h\"\x7d]"),
    ("HOSTAUTH_CONNECTION_HOME_PASSWORD", second)]

/-- The first of them as an entry of a configuration. -/
def workEntry (password : String) : Value :=
  .record [(.text "id", .text "work"), (.text "connection", .text (workString password))]

/-- The second one. -/
def homeEntry : Value :=
  .record [(.text "id", .text "home"), (.text "connection", .text "pop3://bob@h")]

/-- Passwords that hold marks of their own, a port that is wrong, and a blank password. -/
theorem run_hides_passwords_marked :
    run ["-v", "decode", credentialed "imap+foo" "al@ice" "x" "mail:99x/d"] [] noFiles =
        run ["-v", "decode", credentialed "imap+foo" "al@ice" "y:@%40" "mail:99x/d"] [] noFiles ∧
      run ["-v", "list"] (twoConnections "x" "secret") noFiles =
        run ["-v", "list"] (twoConnections "y:@%40" "") noFiles ∧
      run ["show", "home"] (twoConnections "x" "secret") noFiles =
        run ["show", "home"] (twoConnections "x" "") noFiles := by
  have hwork : DifferInPasswordEntry (workEntry "x") (workEntry "y:@%40") :=
    ⟨⟨"work", workString "x", none⟩, ⟨"work", workString "y:@%40", none⟩, by decide +kernel,
      by decide +kernel, rfl, .there _ (by decide) (by decide) (by decide) (by decide)⟩
  have hhome : DifferInPasswordEntry homeEntry homeEntry :=
    ⟨⟨"home", "pop3://bob@h", none⟩, ⟨"home", "pop3://bob@h", none⟩, by decide +kernel,
      by decide +kernel, rfl, .nowhere _⟩
  have hset : ∀ name : String, ((twoConnections "x" "secret").get? name).isSome =
      ((twoConnections "x" "").get? name).isSome := by
    intro name
    rw [Bool.eq_iff_iff, Environment.isSome_get?_iff, Environment.isSome_get?_iff]
    rfl
  refine ⟨?decoded, ?listed, ?shown⟩
  case decoded =>
    exact run_hides_passwords.1 "imap+foo" "al@ice" "x" "y:@%40" "mail:99x/d" ["-v"] [] noFiles
      (by decide) (by decide) (by decide) (by decide) (by decide) (by decide)
  case listed =>
    exact run_hides_passwords.2.1 [] [] [workEntry "x", homeEntry]
      [workEntry "y:@%40", homeEntry] ["-v"] (twoConnections "x" "secret")
      (twoConnections "y:@%40" "") noFiles noFiles (by decide +kernel) (by decide +kernel)
      (.cons hwork (.cons hhome .nil)) (by decide)
  case shown =>
    exact run_hides_passwords.2.2 ["show", "home"] "home"
      ⟨[⟨"work", workString "x", none⟩, ⟨"home", "pop3://bob@h", none⟩], .warning⟩
      (twoConnections "x" "secret") (twoConnections "x" "") noFiles noFiles (by rfl)
      (by decide +kernel) (by decide +kernel) (by decide) (fun name _ => hset name)

end MailConnection.Console
