import MailConnection.Password

/-!
# Directories of connections

A directory holds connections by name.  When a name is given twice the later
connection takes the place of the earlier one.  `account` finds a connection,
reads its connection string, and fills in a password that the string leaves out.
-/

namespace MailConnection

/-- Connections by name, no name twice, in the order in which the names came. -/
structure Directory where
  connections : List NamedConnection
  nodup : (connections.map (·.id)).Nodup
deriving DecidableEq, Repr

namespace Directory

/-- Why a connection cannot be used. -/
inductive LookupError where
  | connectionNotFound (id : String)
  | passwordNotFound (id : String) (variableNames : List String)
  | unreadable (error : DecodeError)
deriving DecidableEq, Repr

/-- The words for an error. -/
def LookupError.message : LookupError → String
  | .connectionNotFound id => "Connection not found: " ++ id
  | .passwordNotFound id names => Password.missingMessage id names
  | .unreadable error => error.message

/-! ## Building -/

/-- The connections with one added, or put in the place of the one with its name. -/
def insert (connection : NamedConnection) : List NamedConnection → List NamedConnection
  | [] => [connection]
  | first :: rest =>
    if first.id = connection.id then connection :: rest else first :: insert connection rest

/-- A name that is there keeps its place, and a new one comes last. -/
theorem map_id_insert (connection : NamedConnection) (connections : List NamedConnection) :
    (insert connection connections).map (·.id) =
      if connection.id ∈ connections.map (·.id) then connections.map (·.id)
      else connections.map (·.id) ++ [connection.id] := by
  induction connections with
  | nil => simp [insert]
  | cons first rest ih =>
    by_cases h : first.id = connection.id
    · simp [insert, h]
    · have h' : ¬ connection.id = first.id := fun heq => h heq.symm
      simp only [insert, if_neg h, List.map_cons, ih, List.mem_cons, h', false_or]
      split <;> simp

theorem nodup_insert {connections : List NamedConnection} (connection : NamedConnection)
    (h : (connections.map (·.id)).Nodup) : ((insert connection connections).map (·.id)).Nodup := by
  rw [map_id_insert]
  split
  · exact h
  · rename_i hnew
    rw [List.nodup_append]
    refine ⟨h, by simp, ?_⟩
    intro name hname other hother heq
    rw [List.mem_singleton] at hother
    exact hnew (hother ▸ heq ▸ hname)

/-- The directory without connections. -/
def empty : Directory := ⟨[], List.nodup_nil⟩

/-- A directory with a connection added, or put in the place of the one with its
name. -/
def put (directory : Directory) (connection : NamedConnection) : Directory :=
  ⟨insert connection directory.connections, nodup_insert connection directory.nodup⟩

/-- The directory of a list of connections. -/
def ofList (connections : List NamedConnection) : Directory := connections.foldl put empty

/-! ## Looking up -/

/-- The names in a directory. -/
def ids (directory : Directory) : List String := directory.connections.map (·.id)

theorem nodup_ids (directory : Directory) : directory.ids.Nodup := directory.nodup

theorem ids_put (directory : Directory) (connection : NamedConnection) :
    (directory.put connection).ids =
      if connection.id ∈ directory.ids then directory.ids
      else directory.ids ++ [connection.id] :=
  map_id_insert connection directory.connections

/-- The connection with a name. -/
def get? (directory : Directory) (id : String) : Option NamedConnection :=
  directory.connections.find? fun connection => connection.id == id

theorem find?_insert (connection : NamedConnection) (connections : List NamedConnection)
    (id : String) :
    (insert connection connections).find? (fun other => other.id == id) =
      if connection.id = id then some connection
      else connections.find? fun other => other.id == id := by
  -- the cases follow `insert`: at the end, in the place of `first`, or behind it
  induction connections with
  | nil =>
    by_cases hid : connection.id = id
    · simp [insert, hid]
    · simp [insert, hid]
  | cons first rest ih =>
    simp only [insert]
    split
    · rename_i hsame
      by_cases hid : connection.id = id
      · simp [hid]
      · simp [hsame, hid]
    · rename_i hother
      by_cases hfirst : first.id = id
      · have hid : connection.id ≠ id := fun hid => hother (hfirst.trans hid.symm)
        simp [hfirst, hid]
      · simp [hfirst, ih]

theorem get?_put (directory : Directory) (connection : NamedConnection) (id : String) :
    (directory.put connection).get? id =
      if connection.id = id then some connection else directory.get? id :=
  find?_insert connection directory.connections id

theorem get?_foldl_put (connections : List NamedConnection) (directory : Directory)
    (id : String) :
    (connections.foldl put directory).get? id =
      (connections.reverse.find? fun connection => connection.id == id).or
        (directory.get? id) := by
  induction connections generalizing directory with
  | nil => rfl
  | cons first rest ih =>
    rw [List.foldl_cons, ih, get?_put, List.reverse_cons, List.find?_append, Option.or_assoc]
    by_cases hid : first.id = id
    · simp [hid]
    · simp [hid]

/-- Of the connections with one name the last one counts. -/
theorem get?_ofList_eq_some_iff {connections : List NamedConnection} {id : String}
    {connection : NamedConnection} :
    (ofList connections).get? id = some connection ↔
      connection.id = id ∧ ∃ before after, connections = before ++ connection :: after ∧
        ∀ later ∈ after, later.id ≠ id := by
  have hempty : empty.get? id = none := rfl
  have hsplits : ∀ after before, connections.reverse = after ++ connection :: before ↔
      connections = before.reverse ++ connection :: after.reverse := by
    intro after before
    rw [List.reverse_eq_iff]
    simp
  rw [ofList, get?_foldl_put, hempty, Option.or_none, List.find?_eq_some_iff_append, beq_iff_eq]
  constructor
  · rintro ⟨hid, after, before, hsplit, hlater⟩
    exact ⟨hid, before.reverse, after.reverse, (hsplits after before).mp hsplit,
      by simpa using hlater⟩
  · rintro ⟨hid, before, after, hsplit, hlater⟩
    exact ⟨hid, after.reverse, before.reverse, (hsplits _ _).mpr (by simpa using hsplit),
      by simpa using hlater⟩

theorem get?_ofList_eq_none_iff {connections : List NamedConnection} {id : String} :
    (ofList connections).get? id = none ↔ ∀ connection ∈ connections, connection.id ≠ id := by
  have hempty : empty.get? id = none := rfl
  simp [ofList, get?_foldl_put, hempty]

theorem mem_of_mem_insert {connections : List NamedConnection} {connection other : NamedConnection}
    (h : connection ∈ insert other connections) :
    connection = other ∨ connection ∈ connections := by
  induction connections with
  | nil => simpa [insert] using h
  | cons first rest ih =>
    unfold insert at h
    split at h
    · rcases List.mem_cons.mp h with rfl | hrest
      · exact .inl rfl
      · exact .inr (List.mem_cons_of_mem first hrest)
    · rcases List.mem_cons.mp h with rfl | hrest
      · exact .inr List.mem_cons_self
      · exact (ih hrest).imp_right (List.mem_cons_of_mem first)

theorem mem_of_mem_foldl_put {connections : List NamedConnection} {directory : Directory}
    {connection : NamedConnection}
    (h : connection ∈ (connections.foldl put directory).connections) :
    connection ∈ connections ∨ connection ∈ directory.connections := by
  induction connections generalizing directory with
  | nil => exact .inr h
  | cons first rest ih =>
    rcases ih h with hrest | hput
    · exact .inl (List.mem_cons_of_mem first hrest)
    · rcases mem_of_mem_insert hput with rfl | hold
      · exact .inl List.mem_cons_self
      · exact .inr hold

/-- A directory of some connections holds no others. -/
theorem mem_of_mem_ofList {connections : List NamedConnection} {connection : NamedConnection}
    (h : connection ∈ (ofList connections).connections) : connection ∈ connections := by
  rcases mem_of_mem_foldl_put h with hmem | hmem
  · exact hmem
  · exact absurd hmem List.not_mem_nil

/-- The connection with a name, or the error that there is none. -/
def get (directory : Directory) (id : String) : Except LookupError NamedConnection :=
  match directory.get? id with
  | some connection => .ok connection
  | none => .error (.connectionNotFound id)

/-- Where no name is given twice, every connection is found by its name. -/
theorem get_ofList_of_mem {connections : List NamedConnection}
    (hnodup : (connections.map (·.id)).Nodup) {connection : NamedConnection}
    (hmem : connection ∈ connections) :
    (ofList connections).get connection.id = .ok connection := by
  obtain ⟨before, after, rfl⟩ := List.append_of_mem hmem
  have hlast : ∀ later ∈ after, later.id ≠ connection.id := by
    simp only [List.map_append, List.map_cons, List.nodup_append, List.nodup_cons] at hnodup
    intro later hlater hid
    exact hnodup.2.1.1 (hid ▸ List.mem_map_of_mem hlater)
  have hget := get?_ofList_eq_some_iff.mpr ⟨rfl, before, after, rfl, hlast⟩
  rw [get, hget]

/-- An account with the password filled in when a login stands without one. -/
def fillPassword (environment : Environment) (connection : NamedConnection) (account : Account) :
    Except LookupError Account :=
  match account.login, account.password with
  | some login, none =>
    match Password.find? environment connection login with
    | some password => .ok (account.setLogin (some login) (some password))
    | none =>
      .error (.passwordNotFound connection.id (Password.variableNames connection login))
  | _, _ => .ok account

/-- The account for the connection with a name. -/
def account (directory : Directory) (environment : Environment) (id : String) :
    Except LookupError Account := do
  let connection ← directory.get id
  match ConnectionString.decode connection.connection with
  | .ok account => fillPassword environment connection account
  | .error error => .error (.unreadable error)

/-- The notes that looking up an account leaves.  The two events that are stamped with the time
of the lookup, that a password was found and that the account is complete, are not among them. -/
def accountNotes (directory : Directory) (environment : Environment) (id : String) : List Note :=
  match directory.get? id with
  | none => []
  | some connection =>
    ConnectionString.notes connection.connection ++
      match ConnectionString.decode connection.connection with
      | .error _ => []
      | .ok account =>
        match account.login, account.password with
        | some login, none =>
          match Password.firstSet? environment (Password.variableNames connection login) with
          | some (name, _) => [.passwordFound connection.id name]
          | none => []
        | _, _ => []

end Directory

end MailConnection
