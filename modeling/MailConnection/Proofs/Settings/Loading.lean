import MailConnection.Directory
import MailConnection.Settings

/-!
# Loading settings

Settings that are loaded can be used: every connection in them has a connection string that can
be read (`decode_of_load`).

What goes wrong before that is of two kinds.  Most of what is wrong with the configuration file
is told with its path.  Everything else is `Unplaced`, an error that tells of no file: `Unplaced`
lists what there is of it, and `fields_eq_error_iff` says that nothing is missing from the list.
-/

namespace MailConnection

namespace Settings

/-! ## What is loaded can be used -/

section
variable {connections : List NamedConnection} {connection : NamedConnection}

/-- Every connection comes from an entry that was accepted. -/
theorem accepted_of_readEntries {start : Nat} {items : List Value}
    (h : readEntries start items = .ok connections) (hmem : connection ∈ connections) :
    connection.Accepted := by
  induction items generalizing start connections with
  | nil =>
    obtain rfl : [] = connections := by simpa [readEntries] using h
    simp at hmem
  | cons value rest ih =>
    unfold readEntries at h
    split at h
    · rename_i first others hread hrest
      obtain rfl : first :: others = connections := Except.ok.inj h
      rcases List.mem_cons.mp hmem with rfl | hmem
      · exact ⟨value, hread⟩
      · exact ih hrest hmem
    · simp at h
    · simp at h
    · simp at h

theorem accepted_of_readConnections {value : Value}
    (h : readConnections value = .ok connections) (hmem : connection ∈ connections) :
    connection.Accepted := by
  unfold readConnections at h
  split at h
  · obtain ⟨found, hread, h⟩ := Validation.bind_eq_ok_iff.mp h
    split at h
    · obtain rfl : found = connections := Except.ok.inj h
      exact accepted_of_readEntries hread hmem
    · simp [throw, throwThe, MonadExceptOf.throw] at h
  · simp at h

/-- Settings are accepted field by field. -/
theorem read_eq_ok_iff {entries : List (Value × Value)} {settings : Settings} :
    read entries = .ok settings ↔
      checkField entries "connections" [] readConnections = .ok settings.connections ∧
        checkField entries "log_level" LogLevel.warning readLogLevel = .ok settings.logLevel ∧
        extraErrors entries = [] := by
  unfold read
  simp only
  split
  · rename_i found level hfound hlevel hextra
    obtain ⟨connections, logLevel⟩ := settings
    simp [hfound, hlevel, hextra]
  · rename_i hnot
    constructor
    · intro h
      cases h
    · rintro ⟨hfound, hlevel, hextra⟩
      exact (hnot _ _ hfound hlevel hextra).elim

theorem accepted_of_read {entries : List (Value × Value)} {settings : Settings}
    (h : read entries = .ok settings) (hmem : connection ∈ settings.connections) :
    connection.Accepted := by
  obtain ⟨hfound, _, _⟩ := read_eq_ok_iff.mp h
  unfold checkField at hfound
  split at hfound
  · rw [← Except.ok.inj hfound] at hmem
    cases hmem
  · exact accepted_of_readConnections (Validation.mapError_eq_ok_iff.mp hfound) hmem

theorem load_eq_ok_iff {environment : Environment} {files : Files} {settings : Settings} :
    load environment files = .ok settings ↔
      ∃ entries, fields environment files = .ok entries ∧ read entries = .ok settings := by
  unfold load
  cases fields environment files with
  | error error => simp
  | ok entries => simp [Validation.mapError_eq_ok_iff]

/-- **Loaded connections can be read.** -/
theorem decode_of_load {environment : Environment} {files : Files} {settings : Settings}
    (h : load environment files = .ok settings) (hmem : connection ∈ settings.connections) :
    ∃ account, ConnectionString.decode connection.connection = .ok account := by
  obtain ⟨entries, _, hread⟩ := load_eq_ok_iff.mp h
  obtain ⟨value, hvalue⟩ := accepted_of_read hread hmem
  exact NamedConnection.decode_of_read hvalue

end

/-! ## Errors that tell of no file -/

/-- The connections that the environment gives in JSON, if it does, are read. -/
def VariableReadable (environment : Environment) : Prop :=
  ∀ s error, environment.getAnyCase? "hostauth_connections" = some s →
    Json.parse s ≠ .error error

/-- The text of the configuration file, where nothing before it is in the way. -/
structure HasText (environment : Environment) (files : Files) (content : String) : Prop where
  variableReadable : VariableReadable environment
  homeKnown : homeUnknown environment = false
  file : ∃ path, configFile? environment files = some (path, .text content)

/-- What can be wrong before there are fields, and is told without a file. -/
inductive Unplaced (environment : Environment) (files : Files) : SourceError → Prop
  | json {s : String} {error : Json.Error}
      (hset : environment.getAnyCase? "hostauth_connections" = some s)
      (hparse : Json.parse s = .error error) : Unplaced environment files (.variable error)
  | home (hreadable : VariableReadable environment) (hhome : homeUnknown environment = true) :
      Unplaced environment files .homeUnknown
  | path {path : FilePath} (hreadable : VariableReadable environment)
      (hhome : homeUnknown environment = false)
      (hfile : configFile? environment files = some (path, .nameTooLong)) :
      Unplaced environment files (.pathTooLong path.text)
  | conversion {content : String} {error : Yaml.ConversionError}
      (htext : HasText environment files content)
      (hyaml : Yaml.read content = .error (.conversion error)) :
      Unplaced environment files (.conversion error)
  | depth {content : String} (htext : HasText environment files content)
      (hyaml : Yaml.read content = .error .tooDeep) : Unplaced environment files .documentTooDeep
  | key {content : String} {entries : List (Value × Value)}
      (htext : HasText environment files content)
      (hyaml : Yaml.read content = .ok (.record entries))
      (hkey : ∃ entry ∈ entries, ∀ name, entry.1 ≠ .text name) :
      Unplaced environment files .fieldName

/-- An error that tells of the configuration file. -/
def isPlaced (error : SourceError) : Bool := error matches .file ..

theorem environmentFields_eq_error_iff {environment : Environment} {cause : SourceError} :
    environmentFields environment = .error cause ↔
      ∃ s error, environment.getAnyCase? "hostauth_connections" = some s ∧
        Json.parse s = .error error ∧ cause = .variable error := by
  unfold environmentFields
  cases environment.getAnyCase? "hostauth_connections" with
  | none => simp
  | some s =>
    cases hparse : Json.parse s with
    | error error => simp [hparse, eq_comm]
    | ok value => cases value <;> simp [hparse]

theorem variableReadable_iff {environment : Environment} :
    VariableReadable environment ↔ ∃ above, environmentFields environment = .ok above := by
  constructor
  · intro h
    cases hfields : environmentFields environment with
    | ok above => exact ⟨above, rfl⟩
    | error cause =>
      obtain ⟨s, error, hset, hparse, _⟩ := environmentFields_eq_error_iff.mp hfields
      exact absurd hparse (h s error hset)
  · rintro ⟨above, habove⟩ s error hset hparse
    have herror := environmentFields_eq_error_iff.mpr ⟨s, error, hset, hparse, rfl⟩
    rw [habove] at herror
    cases herror

/-- The environment adds texts as keys, and leaves the keys that it finds. -/
theorem all_hasTextKey_setEntry (name : String) (value : Value) (entries : List (Value × Value)) :
    (Value.setEntry (.text name) value entries).all hasTextKey = entries.all hasTextKey := by
  induction entries with
  | nil => rfl
  | cons entry rest ih =>
    obtain ⟨k, v⟩ := entry
    unfold Value.setEntry
    split
    · rfl
    · rw [List.all_cons, List.all_cons, ih]

theorem all_hasTextKey_foldl (above : List (String × Value)) (below : List (Value × Value)) :
    (above.foldl (fun acc (name, value) => Value.setEntry (.text name) value acc) below).all
      hasTextKey = below.all hasTextKey := by
  induction above generalizing below with
  | nil => rfl
  | cons entry rest ih => rw [List.foldl_cons, ih, all_hasTextKey_setEntry]

theorem hasTextKey_eq_false_iff {entry : Value × Value} :
    hasTextKey entry = false ↔ ∀ name, entry.1 ≠ .text name := by
  obtain ⟨k, v⟩ := entry
  cases k <;> simp [hasTextKey]

/-- The environment is looked at first, then the file, and then the keys of the file. -/
theorem fields_eq_error_iff_steps {environment : Environment} {files : Files}
    {cause : SourceError} :
    fields environment files = .error cause ↔
      environmentFields environment = .error cause ∨
        VariableReadable environment ∧
          (fileFields environment files = .error cause ∨
            ∃ below, fileFields environment files = .ok below ∧
              below.all hasTextKey = false ∧ cause = .fieldName) := by
  unfold fields
  cases habove : environmentFields environment with
  | error error =>
    have hnot : ¬ VariableReadable environment := by simp [variableReadable_iff, habove]
    simp [bind, Except.bind, hnot]
  | ok above =>
    have hreadable : VariableReadable environment := variableReadable_iff.mpr ⟨above, habove⟩
    cases hbelow : fileFields environment files with
    | error error => simp [bind, Except.bind, hreadable]
    | ok below =>
      simp only [bind, Except.bind, all_hasTextKey_foldl]
      cases hall : below.all hasTextKey <;>
        simp [hreadable, hall, throw, throwThe, MonadExceptOf.throw, pure, Except.pure,
          @eq_comm _ cause, -List.all_eq_false, -List.all_eq_true]

section
variable {environment : Environment} {files : Files}

theorem HasText.fileFields_eq {content : String} (h : HasText environment files content) :
    ∃ path, fileFields environment files = fieldsOfText path content := by
  obtain ⟨path, hfile⟩ := h.file
  exact ⟨path.text, by simp [fileFields, h.homeKnown, hfile]⟩

theorem fieldsOfText_eq_ok_iff {path content : String} {below : List (Value × Value)} :
    fieldsOfText path content = .ok below ↔
      Yaml.read content = .ok .null ∧ below = [] ∨ Yaml.read content = .ok (.record below) := by
  unfold fieldsOfText
  cases Yaml.read content with
  | error error => cases error <;> simp
  | ok value => cases value <;> simp [eq_comm]

/-- A text is told of without its path if it holds a value that cannot be converted, or if it is
too deep. -/
theorem read_of_fieldsOfText {path content : String} {cause : SourceError}
    (hcause : isPlaced cause = false) (h : fieldsOfText path content = .error cause) :
    (∃ error, Yaml.read content = .error (.conversion error) ∧ cause = .conversion error) ∨
      Yaml.read content = .error .tooDeep ∧ cause = .documentTooDeep := by
  unfold fieldsOfText at h
  cases hyaml : Yaml.read content with
  | ok value =>
    rw [hyaml] at h
    cases value <;> cases h <;> cases hcause
  | error error =>
    rw [hyaml] at h
    cases error with
    | problem | character =>
      cases h
      cases hcause
    | conversion error =>
      cases h
      exact .inl ⟨error, rfl, rfl⟩
    | tooDeep =>
      cases h
      exact .inr ⟨rfl, rfl⟩

/-- What the file has to do with an error that tells of none. -/
theorem unplaced_of_fileFields (hreadable : VariableReadable environment) {cause : SourceError}
    (hcause : isPlaced cause = false) (h : fileFields environment files = .error cause) :
    Unplaced environment files cause := by
  cases hhome : homeUnknown environment with
  | true =>
    simp only [fileFields, hhome, if_true] at h
    cases h
    exact .home hreadable hhome
  | false =>
    cases hfile : configFile? environment files with
    | none => simp [fileFields, hhome, hfile] at h
    | some found =>
      obtain ⟨path, state⟩ := found
      simp only [fileFields, hhome, hfile, Bool.false_eq_true, if_false] at h
      cases state with
      | absent => cases h
      | directory | locked =>
        -- told with its path
        cases h
        cases hcause
      | nameTooLong =>
        cases h
        exact .path hreadable hhome hfile
      | text content =>
        have htext : HasText environment files content := ⟨hreadable, hhome, path, hfile⟩
        rcases read_of_fieldsOfText hcause h with ⟨error, hyaml, rfl⟩ | ⟨hyaml, rfl⟩
        · exact .conversion htext hyaml
        · exact .depth htext hyaml

/-- Only a file has keys that are no texts. -/
theorem hasText_of_fileFields (hreadable : VariableReadable environment)
    {below : List (Value × Value)} (h : fileFields environment files = .ok below)
    (hne : below ≠ []) :
    ∃ content, HasText environment files content ∧ Yaml.read content = .ok (.record below) := by
  cases hhome : homeUnknown environment with
  | true => simp [fileFields, hhome] at h
  | false =>
    cases hfile : configFile? environment files with
    | none => simp [fileFields, hhome, hfile, hne.symm] at h
    | some found =>
      obtain ⟨path, state⟩ := found
      simp only [fileFields, hhome, hfile, Bool.false_eq_true, if_false] at h
      cases state with
      | absent => exact absurd (Except.ok.inj h).symm hne
      | directory | locked | nameTooLong => cases h
      | text content =>
        rcases fieldsOfText_eq_ok_iff.mp h with ⟨_, hnil⟩ | hyaml
        · exact absurd hnil hne
        · exact ⟨content, ⟨hreadable, hhome, path, hfile⟩, hyaml⟩

/-- **All errors that tell of no file.** -/
theorem fields_eq_error_iff {cause : SourceError} (hcause : isPlaced cause = false) :
    fields environment files = .error cause ↔ Unplaced environment files cause := by
  rw [fields_eq_error_iff_steps, environmentFields_eq_error_iff]
  constructor
  · rintro (⟨s, error, hset, hparse, rfl⟩ | ⟨hreadable, hfile | ⟨below, hbelow, hkeys, rfl⟩⟩)
    · exact .json hset hparse
    · exact unplaced_of_fileFields hreadable hcause hfile
    · have hne : below ≠ [] := by
        rintro rfl
        simp at hkeys
      obtain ⟨content, htext, hyaml⟩ := hasText_of_fileFields hreadable hbelow hne
      obtain ⟨entry, hentry, hkey⟩ := List.all_eq_false.mp hkeys
      exact .key htext hyaml
        ⟨entry, hentry, hasTextKey_eq_false_iff.mp (Bool.not_eq_true _ ▸ hkey)⟩
  · intro h
    cases h with
    | json hset hparse => exact .inl ⟨_, _, hset, hparse, rfl⟩
    | home hreadable hhome => exact .inr ⟨hreadable, .inl (by simp [fileFields, hhome])⟩
    | path hreadable hhome hfile =>
      exact .inr ⟨hreadable, .inl (by simp [fileFields, hhome, hfile])⟩
    | conversion htext hyaml =>
      obtain ⟨path, hpath⟩ := htext.fileFields_eq
      exact .inr ⟨htext.variableReadable, .inl (by rw [hpath, fieldsOfText, hyaml])⟩
    | depth htext hyaml =>
      obtain ⟨path, hpath⟩ := htext.fileFields_eq
      exact .inr ⟨htext.variableReadable, .inl (by rw [hpath, fieldsOfText, hyaml])⟩
    | @key content entries htext hyaml hkey =>
      obtain ⟨path, hpath⟩ := htext.fileFields_eq
      obtain ⟨entry, hentry, hnot⟩ := hkey
      have hkeys : entries.all hasTextKey = false := List.all_eq_false.mpr
        ⟨entry, hentry, by simp [hasTextKey_eq_false_iff.mpr hnot]⟩
      refine .inr ⟨htext.variableReadable, .inr ⟨entries, ?_, hkeys, rfl⟩⟩
      rw [hpath, fieldsOfText, hyaml]

theorem Unplaced.isPlaced_eq_false {cause : SourceError} (h : Unplaced environment files cause) :
    isPlaced cause = false := by
  cases h <;> rfl

theorem load_eq_source_iff {cause : SourceError} :
    load environment files = .error (.source cause) ↔ fields environment files = .error cause := by
  unfold load
  cases fields environment files with
  | error error => simp
  | ok entries => simp [Validation.mapError_eq_error_iff]

/-- Loading fails for such an error, and for no other one that tells of no file. -/
theorem unplaced_iff {cause : SourceError} :
    Unplaced environment files cause ↔
      isPlaced cause = false ∧ load environment files = .error (.source cause) := by
  constructor
  · intro h
    exact ⟨h.isPlaced_eq_false,
      load_eq_source_iff.mpr ((fields_eq_error_iff h.isPlaced_eq_false).mpr h)⟩
  · rintro ⟨hcause, hload⟩
    exact (fields_eq_error_iff hcause).mp (load_eq_source_iff.mp hload)

end

end Settings

end MailConnection
