import MailConnection.NamedConnection
import MailConnection.Proofs.ConnectionString.Reading

/-!
# Which entries are accepted

An entry of a configuration is usable if it is a record whose fields fit: an identifier, a
connection string that can be read and, if there is one, the name of a variable
(`Field.Fits`).  Other fields do not matter.

The main statement, `read_of_isJson`, says of every JSON value that it is accepted exactly if it
is usable, and what is reported otherwise: one error for each field that does not fit, in the
order of the fields, of which a user is told about the first; and for a value that is no record
one error that stands nowhere.
-/

namespace MailConnection

/-- The values that JSON can hold: no octets and no moments, and texts for keys. -/
inductive Value.IsJson : Value → Prop
  | null : IsJson .null
  | bool (b : Bool) : IsJson (.bool b)
  | int (n : Int) : IsJson (.int n)
  | real (x : Binary64) : IsJson (.real x)
  | text (s : String) : IsJson (.text s)
  | list {items : List Value} (h : ∀ item ∈ items, IsJson item) : IsJson (.list items)
  | record {entries : List (Value × Value)}
      (hkeys : ∀ entry ∈ entries, ∃ name, entry.1 = .text name)
      (hvalues : ∀ entry ∈ entries, IsJson entry.2) : IsJson (.record entries)

theorem Value.isJson_of_lookup {entries : List (Value × Value)} (h : IsJson (.record entries))
    {name : String} {value : Value} (hlookup : lookup name entries = some value) :
    IsJson value := by
  cases h with
  | record _ hvalues => exact hvalues _ (mem_of_lookup hlookup)

/-- In JSON only a text is a text. -/
theorem Validation.readText_eq_ok_iff {value : Value} (h : value.IsJson) {s : String} :
    readText value = .ok s ↔ value = .text s := by
  cases h <;> simp [readText]

namespace NamedConnection

/-! ## Names -/

/-- A character of one class, and any number of characters of another after it. -/
def Named (first later : Char → Prop) (cs : List Char) : Prop :=
  ∃ c rest, cs = c :: rest ∧ first c ∧ ∀ d ∈ rest, later d

/-- An ASCII letter followed by ASCII letters, digits, `_` and `-`. -/
def IdName : List Char → Prop :=
  Named (fun c => c.isAlpha = true) fun c => c.isAlphanum = true ∨ c = '_' ∨ c = '-'

/-- An ASCII letter or `_` followed by ASCII letters, digits and `_`. -/
def VariableName : List Char → Prop :=
  Named (fun c => c.isAlpha = true ∨ c = '_') fun c => c.isAlphanum = true ∨ c = '_'

/-- Checking the first character and all characters is checking the first and the later ones if
the class of the first is the smaller one. -/
theorem named_iff {first later : Char → Bool} (hle : ∀ c, first c = true → later c = true)
    {cs : List Char} :
    (cs.head?.any first && cs.all later) = true ↔
      Named (fun c => first c = true) (fun c => later c = true) cs := by
  rw [Bool.and_eq_true]
  constructor
  · rintro ⟨hhead, hall⟩
    cases cs with
    | nil => simp at hhead
    | cons c rest =>
      rw [List.all_cons, Bool.and_eq_true, List.all_eq_true] at hall
      exact ⟨c, rest, rfl, hhead, hall.2⟩
  · rintro ⟨c, rest, rfl, hfirst, hlater⟩
    rw [List.all_cons, hle c hfirst, Bool.true_and]
    exact ⟨hfirst, List.all_eq_true.mpr hlater⟩

theorem isId_iff {cs : List Char} : isId cs = true ↔ IdName cs := by
  refine (named_iff fun c hc => ?_).trans (by simp [IdName, or_assoc])
  simp [Char.isAlphanum, hc]

theorem isVariableName_iff {cs : List Char} : isVariableName cs = true ↔ VariableName cs := by
  refine (named_iff fun c hc => ?_).trans (by simp [VariableName])
  rcases Bool.or_eq_true_iff.mp hc with hc | hc <;> simp [Char.isAlphanum, hc]

/-! ## Fields -/

/-- The fields of an entry. -/
inductive Field where
  | id
  | connection
  | passwordVariable
deriving DecidableEq, Repr

namespace Field

/-- The name of a field. -/
def name : Field → String
  | .id => "id"
  | .connection => "connection"
  | .passwordVariable => "password_env"

/-- The fields in their order. -/
def all : List Field := [.id, .connection, .passwordVariable]

theorem mem_all (field : Field) : field ∈ all := by
  cases field <;> decide

/-- What may be given for a field, if anything is. -/
def Fits : Field → Option Value → Prop
  | .id, given => ∃ s, given = some (.text s) ∧ IdName s.toList
  | .connection, given =>
    ∃ s, given = some (.text s) ∧ ∃ account, ConnectionString.decode s = .ok account
  | .passwordVariable, given =>
    given = none ∨ given = some .null ∨ ∃ s, given = some (.text s) ∧ VariableName s.toList

/-- A connection string that is well formed does not fit if its port is too long. -/
theorem not_fits_of_digitCount {r : ConnectionString.Reading} (h : r.Legal)
    (hlong : Text.maxNumeralLength < r.digitCount) :
    ¬ Fits .connection (some (.text (String.ofList r.text))) := by
  rintro ⟨s, hs, account, hdecode⟩
  obtain rfl : String.ofList r.text = s := Value.text.inj (Option.some.inj hs)
  rw [ConnectionString.Reading.decode_of_reading h String.toList_ofList.symm, if_pos hlong]
    at hdecode
  cases hdecode

end Field

section
variable {value : Value}

theorem readId_eq_ok_iff (h : value.IsJson) {s : String} :
    readId value = .ok s ↔ value = .text s ∧ IdName s.toList := by
  rw [← Validation.readText_eq_ok_iff h, ← isId_iff, readId]
  cases Validation.readText value with
  | error fault => simp [bind, Except.bind]
  | ok t =>
    simp only [bind, Except.bind, Except.ok.injEq]
    by_cases hnil : t = ""
    · -- the empty text is refused for its length, and is no name either
      subst hnil
      have hempty : isId "".toList = false := rfl
      rw [if_pos rfl]
      constructor
      · simp
      · rintro ⟨rfl, hid⟩
        exact absurd (hempty.symm.trans hid) Bool.false_ne_true
    · rw [if_neg hnil]
      by_cases hid : isId t.toList = true
      · rw [if_pos hid, Except.ok.injEq]
        exact ⟨fun heq => ⟨heq, heq ▸ hid⟩, And.left⟩
      · rw [if_neg hid]
        constructor
        · simp
        · rintro ⟨rfl, hid'⟩
          exact absurd hid' hid

theorem readConnection_eq_ok_iff (h : value.IsJson) {s : String} :
    readConnection value = .ok s ↔
      value = .text s ∧ ∃ account, ConnectionString.decode s = .ok account := by
  rw [← Validation.readText_eq_ok_iff h]
  refine ⟨fun hread => ?_, ?_⟩
  · obtain ⟨htext, _, hdecode⟩ := NamedConnection.readConnection_eq_ok hread
    exact ⟨htext, hdecode⟩
  · rintro ⟨htext, account, hdecode⟩
    -- the empty text cannot be read either
    have hne : s ≠ "" := by
      rintro rfl
      have hempty : ConnectionString.decode "" = .error .malformed := rfl
      simp [hempty] at hdecode
    simp only [readConnection, htext, bind, Except.bind, if_neg hne, hdecode]

theorem readVariable_eq_ok_iff (h : value.IsJson) {variableName : Option String} :
    readVariable value = .ok variableName ↔
      value = .null ∧ variableName = none ∨
        ∃ s, value = .text s ∧ VariableName s.toList ∧ variableName = some s := by
  cases h with
  | null => simp [readVariable, eq_comm]
  | text t =>
    simp only [readVariable, Validation.readText, bind, Except.bind, ← isVariableName_iff,
      reduceCtorEq, false_and, false_or, Value.text.injEq]
    split
    · rename_i hname
      constructor
      · rintro ⟨⟩
        exact ⟨t, rfl, hname, rfl⟩
      · rintro ⟨_, rfl, _, rfl⟩
        rfl
    · rename_i hname
      simp [hname]
  | _ => simp [readVariable, Validation.readText, bind, Except.bind]

end

section
variable {α : Type} {entries : List (Value × Value)} {name : String} {a : α}
  {read : Value → Except Fault α}

theorem requiredField_eq_ok_iff :
    requiredField entries name read = .ok a ↔
      ∃ value, Value.lookup name entries = some value ∧ read value = .ok a := by
  refine ⟨requiredField_eq_ok, ?_⟩
  rintro ⟨value, hlookup, hread⟩
  simp only [requiredField, hlookup, hread]

theorem field_eq_ok_iff {absent : α} :
    Validation.field entries name absent read = .ok a ↔
      Value.lookup name entries = none ∧ a = absent ∨
        ∃ value, Value.lookup name entries = some value ∧ read value = .ok a := by
  unfold Validation.field
  cases Value.lookup name entries with
  | none => simp [eq_comm]
  | some value => cases hread : read value <;> simp [hread]

/-- Whatever is wrong with a field, the error stands there. -/
theorem path_of_requiredField {error : FieldError}
    (h : requiredField entries name read = .error error) : error.path = [.field name] := by
  unfold requiredField at h
  split at h
  · cases h
    rfl
  · split at h
    · cases h
    · cases h
      rfl

theorem path_of_field {absent : α} {error : FieldError}
    (h : Validation.field entries name absent read = .error error) :
    error.path = [.field name] := by
  unfold Validation.field at h
  split at h
  · cases h
  · split at h
    · cases h
    · cases h
      rfl

end

/-! ## Entries -/

/-- A connection is what the fields of an entry say; a variable that is left out counts as
null. -/
structure Describes (entries : List (Value × Value)) (entry : NamedConnection) : Prop where
  id : Value.lookup "id" entries = some (.text entry.id)
  connection : Value.lookup "connection" entries = some (.text entry.connection)
  passwordVariable : (Value.lookup "password_env" entries).getD .null =
    match entry.passwordVariable with
    | none => .null
    | some name => .text name

section
variable {entries : List (Value × Value)}

/-- A text that has to be there is accepted if it is there and legal. -/
theorem requiredField_text_iff (h : Value.IsJson (.record entries)) {name s : String}
    {read : Value → Except Fault String} {legal : String → Prop}
    (hread : ∀ {value : Value}, value.IsJson → ∀ {s},
      read value = .ok s ↔ value = .text s ∧ legal s) :
    requiredField entries name read = .ok s ↔
      Value.lookup name entries = some (.text s) ∧ legal s := by
  rw [requiredField_eq_ok_iff]
  constructor
  · rintro ⟨value, hlookup, hvalue⟩
    obtain ⟨rfl, hlegal⟩ := (hread (Value.isJson_of_lookup h hlookup)).mp hvalue
    exact ⟨hlookup, hlegal⟩
  · rintro ⟨hlookup, hlegal⟩
    exact ⟨.text s, hlookup, (hread (.text s)).mpr ⟨rfl, hlegal⟩⟩

/-- The name of a variable is accepted if it is legal, and so is its absence. -/
theorem field_variable_iff (h : Value.IsJson (.record entries)) {variableName : Option String} :
    Validation.field entries "password_env" none readVariable = .ok variableName ↔
      (Value.lookup "password_env" entries = none ∨
        Value.lookup "password_env" entries = some .null) ∧ variableName = none ∨
      ∃ s, Value.lookup "password_env" entries = some (.text s) ∧ VariableName s.toList ∧
        variableName = some s := by
  rw [field_eq_ok_iff]
  constructor
  · rintro (⟨hlookup, rfl⟩ | ⟨value, hlookup, hread⟩)
    · exact .inl ⟨.inl hlookup, rfl⟩
    · rcases (readVariable_eq_ok_iff (Value.isJson_of_lookup h hlookup)).mp hread with
        ⟨rfl, rfl⟩ | ⟨s, rfl, hname, rfl⟩
      · exact .inl ⟨.inr hlookup, rfl⟩
      · exact .inr ⟨s, hlookup, hname, rfl⟩
  · rintro (⟨hlookup | hlookup, rfl⟩ | ⟨s, hlookup, hname, rfl⟩)
    · exact .inl ⟨hlookup, rfl⟩
    · exact .inr ⟨_, hlookup, rfl⟩
    · exact .inr ⟨_, hlookup, (readVariable_eq_ok_iff (.text s)).mpr (.inr ⟨s, rfl, hname, rfl⟩)⟩

/-- An accepted entry is what its fields say. -/
theorem describes_of_read {entry : NamedConnection} (h : Value.IsJson (.record entries))
    (hread : read (.record entries) = .ok entry) : Describes entries entry := by
  obtain ⟨_, hrecord, hid, hconnection, hvariable⟩ := read_eq_ok hread
  obtain rfl := Value.record.inj hrecord
  refine ⟨((requiredField_text_iff h readId_eq_ok_iff).mp hid).1,
    ((requiredField_text_iff h readConnection_eq_ok_iff).mp hconnection).1, ?_⟩
  rcases (field_variable_iff h).mp hvariable with
    ⟨hlookup | hlookup, hnone⟩ | ⟨s, hlookup, _, hsome⟩
  · rw [hlookup, hnone]
    rfl
  · rw [hlookup, hnone]
    rfl
  · rw [hlookup, hsome]
    rfl

/-- The variable of an accepted entry has a legal name. -/
theorem variableName_of_read {value : Value} {entry : NamedConnection} {name : String}
    (h : read value = .ok entry) (hname : entry.passwordVariable = some name) :
    VariableName name.toList := by
  obtain ⟨_, _, _, _, hfield⟩ := read_eq_ok h
  rw [hname] at hfield
  rcases field_eq_ok_iff.mp hfield with ⟨_, hnone⟩ | ⟨_, _, hread⟩
  · cases hnone
  · exact isVariableName_iff.mp (readVariable_eq_ok_some hread)

/-! ## Errors -/

/-- What is wrong with a field, if anything is. -/
def Field.errors (entries : List (Value × Value)) : Field → List FieldError
  | .id => Validation.errorOf (requiredField entries "id" readId)
  | .connection => Validation.errorOf (requiredField entries "connection" readConnection)
  | .passwordVariable =>
    Validation.errorOf (Validation.field entries "password_env" none readVariable)

theorem errorOf_cases {α : Type} {result : Except FieldError α} {path : List Step}
    {fits : Prop} (hfits : (∃ a, result = .ok a) ↔ fits)
    (hpath : ∀ error, result = .error error → error.path = path) :
    fits ∧ Validation.errorOf result = [] ∨
      ¬ fits ∧ ∃ error, Validation.errorOf result = [error] ∧ error.path = path := by
  cases result with
  | ok a => exact .inl ⟨hfits.mp ⟨a, rfl⟩, rfl⟩
  | error error => exact .inr ⟨fun h => by simpa using hfits.mpr h, error, rfl, hpath error rfl⟩

/-- **A field has one error if it does not fit, and none if it does.** -/
theorem Field.errors_cases (h : Value.IsJson (.record entries)) (field : Field) :
    field.Fits (Value.lookup field.name entries) ∧ field.errors entries = [] ∨
      ¬ field.Fits (Value.lookup field.name entries) ∧
        ∃ error, field.errors entries = [error] ∧ error.path = [.field field.name] := by
  cases field with
  | id =>
    refine errorOf_cases ?_ fun _ => path_of_requiredField
    simp only [requiredField_text_iff h readId_eq_ok_iff]
    exact Iff.rfl
  | connection =>
    refine errorOf_cases ?_ fun _ => path_of_requiredField
    simp only [requiredField_text_iff h readConnection_eq_ok_iff]
    exact Iff.rfl
  | passwordVariable =>
    refine errorOf_cases ?_ fun _ => path_of_field
    simp only [field_variable_iff h]
    constructor
    · rintro ⟨_, ⟨hlookup, _⟩ | ⟨s, hlookup, hname, _⟩⟩
      · exact hlookup.imp_right .inl
      · exact .inr (.inr ⟨s, hlookup, hname⟩)
    · rintro (hlookup | hlookup | ⟨s, hlookup, hname⟩)
      · exact ⟨none, .inl ⟨.inl hlookup, rfl⟩⟩
      · exact ⟨none, .inl ⟨.inr hlookup, rfl⟩⟩
      · exact ⟨some s, .inr ⟨s, hlookup, hname, rfl⟩⟩

/-- A record is accepted if no field has an error, and otherwise refused with all of them. -/
theorem read_record_cases (entries : List (Value × Value)) :
    (∃ entry, read (.record entries) = .ok entry) ∧ Field.all.flatMap (Field.errors entries) = [] ∨
      read (.record entries) = .error (Field.all.flatMap (Field.errors entries)) ∧
        Field.all.flatMap (Field.errors entries) ≠ [] := by
  simp only [read, Field.all, List.flatMap_cons, List.flatMap_nil, List.append_nil, Field.errors]
  cases requiredField entries "id" readId <;>
    cases requiredField entries "connection" readConnection <;>
    cases Validation.field entries "password_env" none readVariable <;>
    simp [Validation.errorOf]

open Classical in
/-- The fields of an entry that do not fit, in their order. -/
noncomputable def offending (entries : List (Value × Value)) : List Field :=
  Field.all.filter fun field => ¬ field.Fits (Value.lookup field.name entries)

/-- **One error for each field that does not fit.** -/
theorem map_path_errors (h : Value.IsJson (.record entries)) :
    (Field.all.flatMap (Field.errors entries)).map FieldError.path =
      (offending entries).map fun field => [.field field.name] := by
  unfold offending
  generalize Field.all = fields
  induction fields with
  | nil => rfl
  | cons field rest ih =>
    rw [List.flatMap_cons, List.map_append, ih, List.filter_cons]
    rcases Field.errors_cases h field with ⟨hfits, hnone⟩ | ⟨hfits, error, hone, hpath⟩
    · simp [hfits, hnone]
    · simp [hfits, hone, hpath]

theorem offending_eq_nil_iff :
    offending entries = [] ↔ ∀ field : Field, field.Fits (Value.lookup field.name entries) := by
  simp [offending, Field.mem_all]

end

/-! ## What a user is told -/

/-- A sentence about one field. -/
inductive SpeaksOf (name : String) : String → Prop
  | missing : SpeaksOf name ("Missing required field '" ++ name ++ "'")
  | illegalId (h : name = "id") : SpeaksOf name
      ("Connection ID must start with a letter and contain only letters, " ++
        "numbers, hyphens, and underscores (e.g., 'work', 'work-imap')")
  | invalid (fault : Fault) :
      SpeaksOf name ("Invalid value for '" ++ name ++ "': " ++ fault.message)

theorem exists_friendly?_eq {error : FieldError} {field : Field}
    (hpath : error.path = [.field field.name]) :
    ∃ text, error.friendly? = some text ∧ SpeaksOf field.name text := by
  have hname : [Step.field field.name].contains (.field "connections") = false := by
    cases field <;> decide
  have hplace : ".".intercalate ([Step.field field.name].map Step.text) = field.name := by
    cases field <;> rfl
  simp only [FieldError.friendly?, hpath, List.getLast?_singleton, hname, hplace,
    Bool.false_eq_true, if_false]
  refine ⟨_, rfl, ?_⟩
  split
  · exact .missing
  · split
    · rename_i hid
      exact .illegalId (Step.field.inj hid.2)
    · exact .invalid error.fault

/-- A user is told about the first error if that one stands in a field. -/
theorem exists_explain_eq (reference : String) (value : Value) {error : FieldError} {field : Field}
    (hpath : error.path = [.field field.name]) :
    ∃ text, SpeaksOf field.name text ∧
      ∀ others, explain reference value (error :: others) = text := by
  obtain ⟨text, hfriendly, hspeaks⟩ := exists_friendly?_eq hpath
  refine ⟨text, hspeaks, fun others => ?_⟩
  rw [explain, friendlyMessage?, List.findSome?_cons, hfriendly, Option.getD_some]

/-- **Every JSON value is judged by its fields.**  It is accepted exactly if it is a record
whose fields fit, as the connection that they describe; a connection string with a port of more
than 4300 digits does not fit.  A record that is refused has one error
for each field that does not fit, in the order of the fields, and a user is told about the first
of them, whatever the others are.  Any other value has one error that stands nowhere, and a user
is told what the check itself says. -/
theorem read_of_isJson {value : Value} (hjson : value.IsJson) (reference : String) :
    ((∃ entry, read value = .ok entry) ↔ ∃ entries, value = .record entries ∧
      ∀ field : Field, field.Fits (Value.lookup field.name entries)) ∧
    (∀ entry, read value = .ok entry → ∃ entries, value = .record entries ∧
      Describes entries entry) ∧
    (∀ entries errors, value = .record entries → read value = .error errors →
      errors.map FieldError.path = (offending entries).map (fun field => [.field field.name]) ∧
      ∃ field fields error rest, offending entries = field :: fields ∧ errors = error :: rest ∧
        SpeaksOf field.name (explain reference value errors) ∧
        ∀ others, explain reference value (error :: others) = explain reference value errors) ∧
    ((∀ entries, value ≠ .record entries) → ∃ error, read value = .error [error] ∧
      error.path = [] ∧ explain reference value [error] = shapeMessage reference value) ∧
    (∀ r : ConnectionString.Reading, r.Legal → 4300 < r.digitCount →
      ¬ Field.connection.Fits (some (.text (String.ofList r.text)))) := by
  refine ⟨⟨?_, ?_⟩, ?_, ?_, ?_, fun r => Field.not_fits_of_digitCount⟩
  · rintro ⟨entry, hread⟩
    obtain ⟨entries, rfl, _⟩ := read_eq_ok hread
    refine ⟨entries, rfl, offending_eq_nil_iff.mp ?_⟩
    rcases read_record_cases entries with ⟨_, hnone⟩ | ⟨hrefused, _⟩
    · have hpaths := map_path_errors hjson
      rw [hnone] at hpaths
      simpa using hpaths.symm
    · rw [hread] at hrefused
      cases hrefused
  · rintro ⟨entries, rfl, hfits⟩
    rcases read_record_cases entries with ⟨hread, _⟩ | ⟨_, hsome⟩
    · exact hread
    · have hpaths := map_path_errors hjson
      rw [offending_eq_nil_iff.mpr hfits] at hpaths
      exact absurd (List.map_eq_nil_iff.mp hpaths) hsome
  · intro entry hread
    obtain ⟨entries, rfl, _⟩ := read_eq_ok hread
    exact ⟨entries, rfl, describes_of_read hjson hread⟩
  · rintro entries errors rfl hread
    rcases read_record_cases entries with ⟨⟨entry, hok⟩, _⟩ | ⟨hrefused, hsome⟩
    · rw [hread] at hok
      cases hok
    · obtain rfl : errors = Field.all.flatMap (Field.errors entries) :=
        Except.error.inj (hread.symm.trans hrefused)
      have hpaths := map_path_errors hjson
      refine ⟨hpaths, ?_⟩
      cases herrors : Field.all.flatMap (Field.errors entries) with
      | nil => exact absurd herrors hsome
      | cons error rest =>
        cases hoffending : offending entries with
        | nil => simp [herrors, hoffending] at hpaths
        | cons field fields =>
          rw [herrors, hoffending, List.map_cons, List.map_cons, List.cons.injEq] at hpaths
          obtain ⟨text, hspeaks, htext⟩ := exists_explain_eq reference (.record entries) hpaths.1
          refine ⟨field, fields, error, rest, rfl, rfl, ?_, fun others => ?_⟩
          · rwa [htext]
          · rw [htext, htext]
  · intro hshape
    refine ⟨⟨[], .notModel "ConnectionConfig"⟩, ?_, rfl, rfl⟩
    cases value with
    | record entries => exact absurd rfl (hshape entries)
    | _ => rfl

/-- An entry with a line feed behind its identifier, a port that is no number, a variable that
is no text, and a field that is none of the three. -/
def faulty : Value :=
  .record [(.text "password_env", .bool true), (.text "note", .list [.null]),
    (.text "id", .text "work\n"), (.text "connection", .text "imap://h:1x")]

theorem read_of_isJson_faulty :
    faulty.IsJson ∧ (∃ errors, read faulty = .error errors ∧
      errors.map FieldError.path =
        [[.field "id"], [.field "connection"], [.field "password_env"]] ∧
      SpeaksOf "id" (explain "" faulty errors)) ∧
    ∃ error, read (.text "work") = .error [error] ∧ error.path = [] ∧
      explain "" (.text "work") [error] = shapeMessage "" (.text "work") := by
  have hjson : faulty.IsJson := by
    refine .record ?_ ?_
    · simp
    · simp only [List.mem_cons, List.not_mem_nil, or_false, forall_eq_or_imp, forall_eq]
      refine ⟨.bool true, .list ?_, .text _, .text _⟩
      simpa using Value.IsJson.null
  obtain ⟨errors, hread, hpaths⟩ : ∃ errors, read faulty = .error errors ∧
      errors.map FieldError.path =
        [[.field "id"], [.field "connection"], [.field "password_env"]] := ⟨_, rfl, rfl⟩
  obtain ⟨hmap, field, fields, _, _, hoffending, _, hspeaks, _⟩ :=
    (read_of_isJson hjson "").2.2.1 _ errors rfl hread
  refine ⟨hjson, ⟨errors, hread, hpaths, ?_⟩, (read_of_isJson (.text "work") "").2.2.2.1 nofun⟩
  rw [hpaths, hoffending, List.map_cons, List.cons.injEq] at hmap
  cases field with
  | id => exact hspeaks
  | connection => exact absurd hmap.1 (by decide)
  | passwordVariable => exact absurd hmap.1 (by decide)

end NamedConnection

end MailConnection
