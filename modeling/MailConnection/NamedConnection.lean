import MailConnection.ConnectionString.Decode
import MailConnection.Validation
import MailConnection.Value.Display

/-!
# Named connections

A configuration lists connections by name: an identifier, a connection string
and, if the password is to be found in a particular environment variable, its
name.  `NamedConnection.read` checks one entry of such a list.  An entry that is
accepted can be used: its connection string can be read (`decode_of_read`).

`FieldError.friendly` says in one sentence what is wrong with a configuration.
-/

namespace MailConnection

/-- A connection that is known by name. -/
structure NamedConnection where
  id : String
  connection : String
  passwordVariable : Option String
deriving DecidableEq, Repr, Inhabited

namespace NamedConnection

/-! ## Legal names -/

/-- An ASCII letter followed by letters, digits, `_` and `-`. -/
def isId (cs : List Char) : Bool :=
  cs.head?.any Char.isAlpha && cs.all fun c => c.isAlphanum || c == '_' || c == '-'

/-- An ASCII letter or `_` followed by letters, digits and `_`. -/
def isVariableName (cs : List Char) : Bool :=
  cs.head?.any (fun c => c.isAlpha || c == '_') && cs.all fun c => c.isAlphanum || c == '_'

/-- The pattern of an identifier, as messages show it. -/
def idPattern : String := "^[a-zA-Z][a-zA-Z0-9_-]*$"

/-- The pattern of a variable's name, as messages show it. -/
def variablePattern : String := "^[A-Za-z_][A-Za-z0-9_]*$"

/-! ## Checking an entry -/

/-- Check an identifier. -/
def readId (value : Value) : Except Fault String := do
  let s ← Validation.readText value
  if s = "" then .error .tooShort
  else if isId s.toList then .ok s
  else .error (.pattern idPattern)

/-- Check a connection string: it has to be readable. -/
def readConnection (value : Value) : Except Fault String := do
  let s ← Validation.readText value
  if s = "" then .error .tooShort
  else match ConnectionString.decode s with
    | .ok _ => .ok s
    | .error error => .error (.value error.reason)

/-- Check the name of a variable, which may be null. -/
def readVariable : Value → Except Fault (Option String)
  | .null => .ok none
  | value => do
    let s ← Validation.readText value
    if isVariableName s.toList then .ok (some s) else .error (.pattern variablePattern)

/-- Check a field that has to be there. -/
def requiredField {α : Type} (entries : List (Value × Value)) (name : String)
    (read : Value → Except Fault α) : Except FieldError α :=
  match Value.lookup name entries with
  | none => .error ⟨[.field name], .missing⟩
  | some value =>
    match read value with
    | .ok a => .ok a
    | .error fault => .error ⟨[.field name], fault⟩

/-- Check an entry; other fields than the three are passed over. -/
def read : Value → Except (List FieldError) NamedConnection
  | .record entries =>
    let id := requiredField entries "id" readId
    let connection := requiredField entries "connection" readConnection
    let variableName := Validation.field entries "password_env" none readVariable
    match id, connection, variableName with
    | .ok id, .ok connection, .ok variableName => .ok ⟨id, connection, variableName⟩
    | _, _, _ =>
      .error (Validation.errorOf id ++ Validation.errorOf connection ++
        Validation.errorOf variableName)
  | _ => .error [⟨[], .notModel "ConnectionConfig"⟩]

/-- A connection that a configuration can hold: some entry is accepted as this one. -/
def Accepted (connection : NamedConnection) : Prop := ∃ value, read value = .ok connection

/-- The notes that checking an entry leaves: those of its connection string. -/
def readNotes (value : Value) : List Note :=
  match value.field? "connection" with
  | some field =>
    match Validation.readText field with
    | .ok s => if s = "" then [] else ConnectionString.notes s
    | .error _ => []
  | none => []

theorem readConnection_eq_ok {value : Value} {s : String} (h : readConnection value = .ok s) :
    Validation.readText value = .ok s ∧ s ≠ "" ∧
      ∃ account, ConnectionString.decode s = .ok account := by
  obtain ⟨t, htext, h⟩ := Validation.bind_eq_ok_iff.mp h
  split at h
  · simp at h
  · rename_i hne
    split at h
    · rename_i account haccount
      obtain rfl : t = s := by simpa using h
      exact ⟨htext, hne, account, haccount⟩
    · simp at h

theorem readId_eq_ok {value : Value} {s : String} (h : readId value = .ok s) :
    isId s.toList = true := by
  obtain ⟨t, _, h⟩ := Validation.bind_eq_ok_iff.mp h
  split at h
  · simp at h
  · split at h
    · rename_i hid
      rwa [← Except.ok.inj h]
    · simp at h

theorem readVariable_eq_ok_some {value : Value} {s : String}
    (h : readVariable value = .ok (some s)) : isVariableName s.toList = true := by
  unfold readVariable at h
  split at h
  · simp at h
  · obtain ⟨t, _, h⟩ := Validation.bind_eq_ok_iff.mp h
    split at h
    · rename_i hname
      rwa [← Option.some.inj (Except.ok.inj h)]
    · simp at h

theorem requiredField_eq_ok {α : Type} {entries : List (Value × Value)} {name : String}
    {read : Value → Except Fault α} {a : α} (h : requiredField entries name read = .ok a) :
    ∃ value, Value.lookup name entries = some value ∧ read value = .ok a := by
  unfold requiredField at h
  cases hlookup : Value.lookup name entries with
  | none => simp [hlookup] at h
  | some value =>
    simp only [hlookup] at h
    cases hread : read value with
    | error fault => simp [hread] at h
    | ok b =>
      simp only [hread, Except.ok.injEq] at h
      exact ⟨value, rfl, by rw [hread, h]⟩

/-- An entry is accepted when its three fields are. -/
theorem read_eq_ok {value : Value} {entry : NamedConnection} (h : read value = .ok entry) :
    ∃ entries, value = .record entries ∧ requiredField entries "id" readId = .ok entry.id ∧
      requiredField entries "connection" readConnection = .ok entry.connection ∧
      Validation.field entries "password_env" none readVariable = .ok entry.passwordVariable := by
  unfold read at h
  split at h
  · rename_i entries
    simp only at h
    split at h
    · rename_i id connection variableName hid hconnection hvariable
      obtain rfl : (⟨id, connection, variableName⟩ : NamedConnection) = entry := by simpa using h
      exact ⟨entries, rfl, hid, hconnection, hvariable⟩
    · simp at h
  · simp at h

theorem isId_of_read {value : Value} {entry : NamedConnection} (h : read value = .ok entry) :
    isId entry.id.toList = true := by
  obtain ⟨_, _, hid, _, _⟩ := read_eq_ok h
  obtain ⟨_, _, hread⟩ := requiredField_eq_ok hid
  exact readId_eq_ok hread

/-- **An accepted entry can be used:** its connection string can be read. -/
theorem decode_of_read {value : Value} {entry : NamedConnection} (h : read value = .ok entry) :
    ∃ account, ConnectionString.decode entry.connection = .ok account := by
  obtain ⟨_, _, _, hconnection, _⟩ := read_eq_ok h
  obtain ⟨_, _, hread⟩ := requiredField_eq_ok hconnection
  exact (readConnection_eq_ok hread).2.2

/-- An accepted entry leaves the notes of its connection string. -/
theorem readNotes_of_read {value : Value} {entry : NamedConnection} (h : read value = .ok entry) :
    readNotes value = ConnectionString.notes entry.connection := by
  obtain ⟨entries, rfl, _, hconnection, _⟩ := read_eq_ok h
  obtain ⟨field, hfield, hread⟩ := requiredField_eq_ok hconnection
  obtain ⟨htext, hne, _⟩ := readConnection_eq_ok hread
  simp only [readNotes, Value.field?, hfield, htext, if_neg hne]

end NamedConnection

/-! ## One sentence for a user -/

/-- A step as it stands in a sentence. -/
def Step.text : Step → String
  | .field name => name
  | .item index => toString index

/-- What to say about an error that stands somewhere; nothing about one that does not. -/
def FieldError.friendly? (error : FieldError) : Option String :=
  match error.path.getLast? with
  | none => none
  | some last =>
    some <|
      if error.fault = .missing then
        if error.path.contains (.field "connections") then
          "Connection is missing required field '" ++ last.text ++
            "'. Required fields for connections: id, connection"
        else "Missing required field '" ++ last.text ++ "'"
      else if error.fault.kind = "string_pattern_mismatch" ∧ last = .field "id" then
        "Connection ID must start with a letter and contain only letters, " ++
          "numbers, hyphens, and underscores (e.g., 'work', 'work-imap')"
      else
        "Invalid value for '" ++ ".".intercalate (error.path.map Step.text) ++ "': " ++
          error.fault.message

/-- What to say about the first error that stands somewhere. -/
def friendlyMessage? (errors : List FieldError) : Option String :=
  errors.findSome? FieldError.friendly?

/-- What to say about a value that is no record at all.  `reference` is the address
of the page that explains faults of this kind. -/
def NamedConnection.shapeMessage (reference : String) (value : Value) : String :=
  let fault := Fault.notModel "ConnectionConfig"
  "1 validation error for ConnectionConfig\n  " ++ fault.message ++ " [type=" ++ fault.kind ++
    ", input_value=" ++ Value.excerpt value.display ++ ", input_type=" ++ value.kindName ++
    "]\n    For further information visit " ++ reference

/-- What to say about an entry that is refused: one sentence, if an error stands somewhere. -/
def NamedConnection.explain (reference : String) (value : Value) (errors : List FieldError) :
    String :=
  (friendlyMessage? errors).getD (shapeMessage reference value)

end MailConnection
