import Mathlib.Data.List.Forall2
import MailConnection.Proofs.ConnectionString.Decoded
import MailConnection.Proofs.Console.Secrecy
import MailConnection.Proofs.Console.Ending
import MailConnection.Proofs.Directory.Order
import MailConnection.Proofs.Settings.Names

/-!
# Configured connections and listed ones

The settings check a list of connections when they are loaded, and a directory takes the list as
it comes.  That no connection is lost on the way, and that listing them cannot fail, rests on two
things that the settings have checked: no name is given twice, so that the directory holds the
connections as they were configured (`Directory.connections_ofList_of_nodup`), and every
connection string can be read (`Settings.decode_of_load`).

`configured_connections_listed` puts this together, and says beside it what a directory makes of
a list that nobody has checked (`Directory.Orders`).
-/

namespace MailConnection

/-! ## A directory of any list -/

namespace Directory

/-- A directory has each name of some connections once, in the order in which the names first
occur, and finds the last connection of a name. -/
structure Orders (connections : List NamedConnection) (directory : Directory) : Prop where
  nodup : directory.ids.Nodup
  mem_ids_iff : ∀ id, id ∈ directory.ids ↔ id ∈ connections.map (·.id)
  order : directory.ids.Pairwise fun earlier later =>
    (connections.map (·.id)).idxOf earlier < (connections.map (·.id)).idxOf later
  get_eq_ok_iff : ∀ id connection, directory.get id = .ok connection ↔
    connection.id = id ∧ ∃ before after, connections = before ++ connection :: after ∧
      ∀ later ∈ after, later.id ≠ id
  get_eq_error_iff : ∀ id error, directory.get id = .error error ↔
    id ∉ directory.ids ∧ error = .connectionNotFound id

theorem get_eq_ok_iff {directory : Directory} {id : String} {connection : NamedConnection} :
    directory.get id = .ok connection ↔ directory.get? id = some connection := by
  unfold get
  cases directory.get? id <;> simp

theorem orders_ofList (connections : List NamedConnection) :
    Orders connections (ofList connections) where
  nodup := nodup_ids _
  mem_ids_iff _ := mem_ids_ofList_iff
  order := pairwise_ids_ofList connections
  get_eq_ok_iff _ _ := get_eq_ok_iff.trans get?_ofList_eq_some_iff
  get_eq_error_iff _ _ := Directory.get_eq_error_iff

end Directory

namespace Console

/-! ## The lines of a list -/

/-- The line of a connection in a list: its name, and protocol, address and port that its
connection string names. -/
def Listed (connection : NamedConnection) (line : String) : Prop :=
  ∃ account protocol address, ConnectionString.decode connection.connection = .ok account ∧
    account.protocol = some protocol ∧ account.address = some address ∧
    line = connection.id ++ ": " ++ protocol ++ "://" ++ address ++ ":" ++
      toString account.port ++ "\n"

section
variable {ε α β : Type} {f : α → Except ε β}

theorem forall₂_of_mapM_eq_ok {values : List α} {results : List β}
    (h : values.mapM f = .ok results) :
    List.Forall₂ (fun value result => f value = .ok result) values results := by
  induction values generalizing results with
  | nil =>
    cases h
    exact .nil
  | cons value rest ih =>
    rw [List.mapM_cons] at h
    obtain ⟨result, hresult, h⟩ := Validation.bind_eq_ok_iff.mp h
    obtain ⟨others, hothers, h⟩ := Validation.bind_eq_ok_iff.mp h
    cases h
    exact .cons hresult (ih hothers)

end

theorem listed_of_connectionLine {connection : NamedConnection} {line : String}
    (h : connectionLine connection = .ok line) : Listed connection line := by
  unfold connectionLine at h
  cases hdecode : ConnectionString.decode connection.connection with
  | error error =>
    rw [hdecode] at h
    cases h
  | ok account =>
    rw [hdecode] at h
    obtain rfl := Except.ok.inj h
    obtain ⟨r, _, _, _, rfl⟩ := ConnectionString.exists_reading_of_decode_ok hdecode
    exact ⟨_, _, _, hdecode, rfl, rfl, rfl⟩

/-- What is listed of connections that can be read. -/
theorem exists_listReport_eq {connections : List NamedConnection} {directory : Directory}
    (hsame : directory.connections = connections)
    (hreadable : ∀ connection ∈ connections,
      ∃ account, ConnectionString.decode connection.connection = .ok account)
    (showNotes : Bool) :
    ∃ lines notes, List.Forall₂ Listed connections lines ∧
      listReport showNotes directory =
        ⟨notes, .printed
          (if connections = [] then "No connections configured\n" else String.join lines)⟩ := by
  obtain ⟨lines, hlines⟩ := mapM_connectionLine_ok hreadable
  have hlisted : List.Forall₂ Listed connections lines :=
    (forall₂_of_mapM_eq_ok hlines).imp fun _ _ => listed_of_connectionLine
  unfold listReport
  rw [hsame]
  split
  · exact ⟨lines, [], hlisted, rfl⟩
  · rw [hlines]
    exact ⟨lines, _, hlisted, rfl⟩

/-- The outcome of listing some connections: their lines in order, or a remark that there are
none. -/
structure Lists (connections : List NamedConnection) (outcome : Outcome) : Prop where
  exit : outcome.exit = .status 0
  output : ∃ lines, List.Forall₂ Listed connections lines ∧
    outcome.output =
      if connections = [] then "No connections configured\n" else String.join lines

theorem lists_run {environment : Environment} {files : Files} {settings : Settings}
    (hload : Settings.load environment files = .ok settings)
    (hnodup : (settings.connections.map (·.id)).Nodup) {arguments : List String} {verbose : Bool}
    (hread : Command.read unknownPort arguments = .ok (.list, verbose)) :
    Lists settings.connections (run arguments environment files) := by
  obtain ⟨lines, notes, hlisted, hreport⟩ := exists_listReport_eq
    (Directory.connections_ofList_of_nodup hnodup)
    (fun connection hmem => Settings.decode_of_load hload hmem)
    (verbose || settings.logLevel == .debug)
  rw [run_eq_of_read hread, Command.report, withDirectory, hload]
  simp only [hreport]
  exact ⟨rfl, lines, hlisted, rfl⟩

/-! ## From the configuration to the list -/

/-- **Configured connections are the ones that are listed.**  A list of valid entries is accepted
exactly if no name is given twice and the rest of the settings is accepted; if a name is given
twice, the first entry with the name of an earlier one is reported.  A list that is accepted is
found again in the directory, name by name and in order, and every run that lists the connections
of such settings does so without failure.  Of a list that nobody has checked, the directory keeps
the last connection of each name, at the place of the first. -/
theorem configured_connections_listed :
    (∀ entries connections, Settings.Configured entries connections →
      ((∃ settings, Settings.read entries = .ok settings) ↔
        (connections.map (·.id)).Nodup ∧ Settings.RestAccepted entries) ∧
      (¬ (connections.map (·.id)).Nodup → ∃ connection errors,
        Settings.FirstRepeat connections connection ∧ Settings.read entries = .error errors ∧
          (SettingsError.refused errors).message =
            "Invalid value for 'connections': Value error, duplicate connection id '" ++
              connection.id ++ "'") ∧
      ∀ settings, Settings.read entries = .ok settings →
        settings.connections = connections ∧
        (Directory.ofList connections).ids = connections.map (·.id) ∧
        (∀ connection ∈ connections,
          (Directory.ofList connections).get connection.id = .ok connection) ∧
        ∀ environment files arguments verbose,
          Settings.fields environment files = .ok entries →
            Command.read unknownPort arguments = .ok (.list, verbose) →
              Lists connections (run arguments environment files)) ∧
    ∀ connections, Directory.Orders connections (Directory.ofList connections) := by
  refine ⟨fun entries connections h => ⟨h.exists_read_iff, ?_, ?_⟩, Directory.orders_ofList⟩
  · intro hrepeat
    obtain ⟨connection, others, hfirst, hread⟩ := h.read_of_not_nodup hrepeat
    exact ⟨connection, _, hfirst, hread, Settings.message_duplicateError connection.id others⟩
  · intro settings hread
    obtain ⟨rfl, hnodup, _⟩ := h.read_eq_ok_iff.mp hread
    refine ⟨rfl, Directory.ids_ofList_of_nodup hnodup,
      fun connection hmem => Directory.get_ofList_of_mem hnodup hmem, ?_⟩
    intro environment files arguments verbose hfields hlist
    exact lists_run (Settings.load_eq_ok_iff.mpr ⟨entries, hfields, hread⟩) hnodup hlist

/-- A configuration of two connections, given in the environment. -/
def twoNames : Environment :=
  [("HOSTAUTH_CONNECTIONS",
    "[\x7b\"id\":\"work\",\"connection\":\"imap://h\"\x7d," ++
      "\x7b\"id\":\"home\",\"connection\":\"smtp://a@[::1]:99\"\x7d]")]

/-- An entry of a configuration. -/
def plainEntry (connection : NamedConnection) : Value :=
  .record [(.text "id", .text connection.id), (.text "connection", .text connection.connection)]

/-- The fields of a configuration. -/
def plainFields (connections : List NamedConnection) : List (Value × Value) :=
  [(.text "connections", .list (connections.map plainEntry))]

def workConnection : NamedConnection := ⟨"work", "imap://h", none⟩

def homeConnection : NamedConnection := ⟨"home", "smtp://a@[::1]:99", none⟩

theorem configured_connections_listed_twoNames :
    (Settings.Configured (plainFields [workConnection, homeConnection])
        [workConnection, homeConnection] ∧
      Settings.fields twoNames (FileTree.mk ⟨"/", []⟩ []).files =
        .ok (plainFields [workConnection, homeConnection]) ∧
      Lists [workConnection, homeConnection]
        (run ["list"] twoNames (FileTree.mk ⟨"/", []⟩ []).files)) ∧
    Settings.Configured (plainFields [workConnection, workConnection])
        [workConnection, workConnection] ∧
      ∃ connection errors,
        Settings.FirstRepeat [workConnection, workConnection] connection ∧
          Settings.read (plainFields [workConnection, workConnection]) = .error errors ∧
          (SettingsError.refused errors).message =
            "Invalid value for 'connections': Value error, duplicate connection id '" ++
              connection.id ++ "'" := by
  have hwork : NamedConnection.read (plainEntry workConnection) = .ok workConnection := by
    decide +kernel
  have hhome : NamedConnection.read (plainEntry homeConnection) = .ok homeConnection := by
    decide +kernel
  have hboth : Settings.Configured (plainFields [workConnection, homeConnection])
      [workConnection, homeConnection] := ⟨_, rfl, .cons hwork (.cons hhome .nil)⟩
  have htwice : Settings.Configured (plainFields [workConnection, workConnection])
      [workConnection, workConnection] := ⟨_, rfl, .cons hwork (.cons hwork .nil)⟩
  have hfields : Settings.fields twoNames (FileTree.mk ⟨"/", []⟩ []).files =
      .ok (plainFields [workConnection, homeConnection]) := by
    decide +kernel
  have hlist : Command.read unknownPort ["list"] = .ok (.list, false) := rfl
  obtain ⟨haccepted, _, hloaded⟩ := configured_connections_listed.1 _ _ hboth
  obtain ⟨settings, hsettings⟩ := haccepted.mpr ⟨by decide, ⟨.warning, rfl⟩, rfl⟩
  obtain ⟨_, _, _, hlists⟩ := hloaded settings hsettings
  exact ⟨⟨hboth, hfields, hlists _ _ _ _ hfields hlist⟩, htwice,
    (configured_connections_listed.1 _ _ htwice).2.1 (by decide)⟩

end Console

end MailConnection
