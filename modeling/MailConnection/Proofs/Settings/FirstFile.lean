import Mathlib.Data.List.Basic
import MailConnection.Proofs.Settings.Loading

/-!
# The one file that counts

The settings are read from one file, the first candidate that exists.  `existing?` is that
candidate, and `configFile?` what the search finds.  The two differ in one case: the search stops
at a path that is too long to have anything under it, and loading fails (`obstacle?`).  Whether a
path is too long depends on the files, since a long name is only looked at in a directory that is
there.

* `load_eq_iff_of_existing?_eq`: apart from this case the first candidate that exists decides
  everything that files can decide.
* `load_of_unusable`, `load_of_blank`: a file that cannot be used is not passed over, and a blank
  one is as good as none.
* `load_eq_ok_iff_fieldValue?`: every field has the value that the environment gives, or else the
  file, or else its default.

`first_existing_counts` puts these together, and `load_differs_on_longName` shows the case apart.
-/

namespace MailConnection

/-- Something stands under a path. -/
def FileState.isPresent (state : FileState) : Bool := state matches .directory | .locked | .text _

namespace Settings

/-! ## The search -/

section
variable (environment : Environment) (files : Files)

/-- The first candidate that exists, and what it is. -/
def existing? : Option (FilePath × FileState) :=
  ((candidates environment files.workingDirectory).map fun path => (path, files.state path)).find?
    fun found => found.2.isPresent

/-- The path that the search for the file stumbles over, if it does. -/
def obstacle? : Option String :=
  match configFile? environment files with
  | some (path, .nameTooLong) => some path.text
  | _ => none

/-- Loading fails before any file is looked for. -/
def FailsBefore : Prop := ¬ VariableReadable environment ∨ homeUnknown environment = true

end

section
variable {environment : Environment} {files other : Files}

/-- Where no path is too long, what is not absent exists. -/
theorem find?_isPresent_of_find? {found : List (FilePath × FileState)}
    (h : ∀ path, found.find? (fun entry => entry.2 != .absent) ≠ some (path, .nameTooLong)) :
    found.find? (fun entry => entry.2 != .absent) = found.find? fun entry => entry.2.isPresent := by
  induction found with
  | nil => rfl
  | cons entry rest ih =>
    obtain ⟨path, state⟩ := entry
    cases state with
    | absent => exact ih h
    | nameTooLong => exact absurd rfl (h path)
    | directory => rfl
    | locked => rfl
    | text _ => rfl

theorem obstacle?_eq_some_iff {text : String} :
    obstacle? environment files = some text ↔
      ∃ path, configFile? environment files = some (path, .nameTooLong) ∧ path.text = text := by
  fun_cases obstacle? environment files with
  | case1 path hfile => simp [hfile]
  | case2 hnot =>
    constructor
    · rintro ⟨⟩
    · rintro ⟨path, hfile, _⟩
      exact (hnot path hfile).elim

/-- What is found is what exists, unless the search stumbles. -/
theorem configFile?_eq_existing? (h : obstacle? environment files = none) :
    configFile? environment files = existing? environment files := by
  refine find?_isPresent_of_find? fun path hfile => ?_
  have hsome := obstacle?_eq_some_iff.mpr ⟨path, hfile, rfl⟩
  rw [h] at hsome
  cases hsome

theorem load_congr (h : fileFields environment files = fileFields environment other) :
    load environment files = load environment other := by
  simp only [load, fields, h]

theorem fileFields_of_obstacle? (hhome : homeUnknown environment = false) {text : String}
    (h : obstacle? environment files = some text) :
    fileFields environment files = .error (.pathTooLong text) := by
  obtain ⟨path, hfile, rfl⟩ := obstacle?_eq_some_iff.mp h
  simp [fileFields, hhome, hfile]

theorem load_eq_pathTooLong_iff (hbefore : ¬ FailsBefore environment) {text : String} :
    load environment files = .error (.source (.pathTooLong text)) ↔
      obstacle? environment files = some text := by
  obtain ⟨hreadable, hhome⟩ := not_or.mp hbefore
  rw [Classical.not_not] at hreadable
  rw [Bool.not_eq_true] at hhome
  rw [obstacle?_eq_some_iff]
  constructor
  · intro hload
    cases unplaced_iff.mpr ⟨rfl, hload⟩ with
    | path _ _ hfile => exact ⟨_, hfile, rfl⟩
  · rintro ⟨path, hfile, rfl⟩
    exact (unplaced_iff.mp (.path hreadable hhome hfile)).2

theorem load_eq_of_failsBefore (h : FailsBefore environment) (files other : Files) :
    load environment files = load environment other := by
  rcases h with hunreadable | hhome
  · cases habove : environmentFields environment with
    | error cause => simp only [load, fields, habove, bind, Except.bind]
    | ok above => exact absurd (variableReadable_iff.mpr ⟨above, habove⟩) hunreadable
  · exact load_congr (by simp [fileFields, hhome])

/-! ## Agreement -/

/-- What is loaded is decided by the first candidate that exists and by the path that the search
stumbles over. -/
theorem load_eq_iff_of_existing?_eq
    (hagree : existing? environment files = existing? environment other) :
    load environment files = load environment other ↔
      FailsBefore environment ∨ obstacle? environment files = obstacle? environment other := by
  by_cases hbefore : FailsBefore environment
  · simp [hbefore, load_eq_of_failsBefore hbefore files other]
  have hhome : homeUnknown environment = false := by simpa using (not_or.mp hbefore).2
  simp only [hbefore, false_or]
  constructor
  · intro hload
    ext text
    rw [← load_eq_pathTooLong_iff hbefore, hload,
      load_eq_pathTooLong_iff hbefore]
  · intro hobstacle
    apply load_congr
    cases hsome : obstacle? environment files with
    | some text =>
      rw [fileFields_of_obstacle? hhome hsome, fileFields_of_obstacle? hhome (hobstacle ▸ hsome)]
    | none =>
      have hfile : configFile? environment files = configFile? environment other := by
        rw [configFile?_eq_existing? hsome, hagree, configFile?_eq_existing? (hobstacle ▸ hsome)]
      simp only [fileFields, hfile]

/-- What is behind a candidate that is not absent has no influence. -/
theorem configFile?_congr {upTo later : List FilePath}
    (hsplit : candidates environment files.workingDirectory = upTo ++ later)
    (hdirectory : other.workingDirectory = files.workingDirectory)
    (hsame : ∀ path ∈ upTo, other.state path = files.state path)
    (hfound : ∃ path ∈ upTo, files.state path ≠ .absent) :
    configFile? environment other = configFile? environment files := by
  have hmap : (upTo.map fun path => (path, other.state path)) =
      upTo.map fun path => (path, files.state path) :=
    List.map_congr_left fun path hpath => by rw [hsame path hpath]
  have hsome : ((upTo.map fun path => (path, files.state path)).find?
      fun found => found.2 != .absent).isSome = true := by
    obtain ⟨path, hpath, hstate⟩ := hfound
    rw [List.find?_isSome]
    exact ⟨(path, files.state path), List.mem_map_of_mem hpath, by simpa using hstate⟩
  obtain ⟨found, hfind⟩ := Option.isSome_iff_exists.mp hsome
  rw [configFile?, configFile?, hdirectory, hsplit, List.map_append, List.map_append, hmap,
    List.find?_append, List.find?_append, hfind, Option.some_or, Option.some_or]

theorem load_eq_of_later {upTo later : List FilePath}
    (hsplit : candidates environment files.workingDirectory = upTo ++ later)
    (hdirectory : other.workingDirectory = files.workingDirectory)
    (hsame : ∀ path ∈ upTo, other.state path = files.state path)
    (hfound : ∃ path ∈ upTo, files.state path ≠ .absent) :
    load environment other = load environment files :=
  load_congr (by simp only [fileFields, configFile?_congr hsplit hdirectory hsame hfound])

end

/-! ## What the file supplies -/

/-- What stands under a path cannot be used as a configuration file. -/
inductive Unusable : FileState → Prop
  | directory : Unusable .directory
  | locked : Unusable .locked
  | invalid {content : String} {error : Yaml.Failure} (hyaml : Yaml.read content = .error error) :
      Unusable (.text content)
  | notMapping {content : String} {value : Value} (hyaml : Yaml.read content = .ok value)
      (hnull : value ≠ .null) (hrecord : ∀ entries, value ≠ .record entries) :
      Unusable (.text content)

/-- The fields that the first candidate that exists supplies: none if there is no such candidate
or it is blank. -/
inductive Supplies (environment : Environment) (files : Files) : List (Value × Value) → Prop
  | nothing (hexisting : existing? environment files = none) : Supplies environment files []
  | blank {path : FilePath} {content : String}
      (hexisting : existing? environment files = some (path, .text content))
      (hyaml : Yaml.read content = .ok .null) : Supplies environment files []
  | mapping {path : FilePath} {content : String} {entries : List (Value × Value)}
      (hexisting : existing? environment files = some (path, .text content))
      (hyaml : Yaml.read content = .ok (.record entries)) : Supplies environment files entries

section
variable {environment : Environment} {files other : Files}

theorem isPresent_of_existing? {path : FilePath} {state : FileState}
    (h : existing? environment files = some (path, state)) : state.isPresent = true := by
  simpa using List.find?_some h

/-- The fields of the file, where nothing is in the way of the search for it. -/
theorem fileFields_eq (hhome : homeUnknown environment = false)
    (hnone : obstacle? environment files = none) :
    fileFields environment files =
      match existing? environment files with
      | none => .ok []
      | some (path, .text content) => fieldsOfText path.text content
      | some (path, .locked) => .error (.file path.text .locked)
      | some (path, _) => .error (.file path.text .directory) := by
  rw [fileFields, if_neg (by simp [hhome]), configFile?_eq_existing? hnone]
  cases hexisting : existing? environment files with
  | none => rfl
  | some found =>
    obtain ⟨path, state⟩ := found
    have hpresent := isPresent_of_existing? hexisting
    cases state with
    | absent => cases hpresent
    | nameTooLong => cases hpresent
    | directory => rfl
    | locked => rfl
    | text content => rfl

/-- Text that cannot be used is refused, and if a file is named, it is the one with the text. -/
theorem fieldsOfText_of_unusable {content : String} (h : Unusable (.text content))
    (path : String) : ∃ cause, fieldsOfText path content = .error cause ∧
      ∀ name error, cause = .file name error → name = path := by
  cases h with
  | @invalid _ error hyaml =>
    unfold fieldsOfText
    rw [hyaml]
    cases error <;> exact ⟨_, rfl, by simp⟩
  | @notMapping _ value hyaml hnull hrecord =>
    unfold fieldsOfText
    rw [hyaml]
    cases value with
    | null => exact absurd rfl hnull
    | record entries => exact absurd rfl (hrecord entries)
    | _ => exact ⟨_, rfl, by simp⟩

theorem fileFields_eq_ok_iff {below : List (Value × Value)} :
    fileFields environment files = .ok below ↔
      homeUnknown environment = false ∧ obstacle? environment files = none ∧
        Supplies environment files below := by
  cases hhome : homeUnknown environment with
  | true => simp [fileFields, hhome]
  | false =>
    cases hobstacle : obstacle? environment files with
    | some text => simp [fileFields_of_obstacle? hhome hobstacle]
    | none =>
      simp only [fileFields_eq hhome hobstacle, true_and]
      constructor
      · intro h
        cases hexisting : existing? environment files with
        | none =>
          rw [hexisting] at h
          cases h
          exact .nothing hexisting
        | some found =>
          obtain ⟨path, state⟩ := found
          rw [hexisting] at h
          cases state with
          | text content =>
            rcases fieldsOfText_eq_ok_iff.mp h with ⟨hyaml, rfl⟩ | hyaml
            · exact .blank hexisting hyaml
            · exact .mapping hexisting hyaml
          | absent | directory | locked | nameTooLong => cases h
      · rintro (hexisting | ⟨hexisting, hyaml⟩ | ⟨hexisting, hyaml⟩)
        · rw [hexisting]
        · rw [hexisting]
          exact fieldsOfText_eq_ok_iff.mpr (.inl ⟨hyaml, rfl⟩)
        · rw [hexisting]
          exact fieldsOfText_eq_ok_iff.mpr (.inr hyaml)

/-! ## Files that cannot be used, and blank ones -/

theorem load_of_fileFields {cause : SourceError} (hreadable : VariableReadable environment)
    (h : fileFields environment files = .error cause) :
    load environment files = .error (.source cause) :=
  load_eq_source_iff.mpr (fields_eq_error_iff_steps.mpr (.inr ⟨hreadable, .inl h⟩))

/-- A candidate that exists and cannot be used is not passed over. -/
theorem load_of_unusable {path : FilePath} {state : FileState}
    (hexisting : existing? environment files = some (path, state)) (h : Unusable state) :
    ∃ cause, load environment files = .error (.source cause) ∧
      ∀ name error, cause = .file name error → name = path.text := by
  by_cases hreadable : VariableReadable environment
  · cases hhome : homeUnknown environment with
    | true =>
      exact ⟨.homeUnknown, load_of_fileFields hreadable (by simp [fileFields, hhome]), by simp⟩
    | false =>
      cases hobstacle : obstacle? environment files with
      | some text =>
        exact ⟨.pathTooLong text,
          load_of_fileFields hreadable (fileFields_of_obstacle? hhome hobstacle), by simp⟩
      | none =>
        have hfields := fileFields_eq hhome hobstacle
        rw [hexisting] at hfields
        cases state with
        | absent => cases h
        | nameTooLong => cases h
        | directory => exact ⟨_, load_of_fileFields hreadable hfields, by simp [eq_comm]⟩
        | locked => exact ⟨_, load_of_fileFields hreadable hfields, by simp [eq_comm]⟩
        | text content =>
          obtain ⟨cause, hcause, hname⟩ := fieldsOfText_of_unusable h path.text
          exact ⟨cause, load_of_fileFields hreadable (hfields.trans hcause), hname⟩
  · -- the environment is looked at before any file
    cases habove : environmentFields environment with
    | ok above => exact absurd (variableReadable_iff.mpr ⟨above, habove⟩) hreadable
    | error cause =>
      obtain ⟨_, _, _, _, rfl⟩ := environmentFields_eq_error_iff.mp habove
      exact ⟨_, load_eq_source_iff.mpr (fields_eq_error_iff_steps.mpr (.inl habove)), by simp⟩

theorem read_empty : Yaml.read "" = .ok .null := by
  rfl

/-- A blank file is as good as none. -/
theorem load_of_blank (h : Supplies environment files [])
    (hnone : obstacle? environment files = none) (hother : existing? environment other = none)
    (hnone' : obstacle? environment other = none) :
    load environment files = load environment other := by
  apply load_congr
  cases hhome : homeUnknown environment with
  | true => simp [fileFields, hhome]
  | false =>
    rw [fileFields_eq_ok_iff.mpr ⟨hhome, hnone, h⟩,
      fileFields_eq_ok_iff.mpr ⟨hhome, hnone', .nothing hother⟩]

end

/-! ## Field by field -/

/-- The value that the environment gives for the connections, which counts as none if it is null. -/
def environmentConnections? (environment : Environment) : Option Value :=
  match (environment.getAnyCase? "hostauth_connections").map Json.parse with
  | some (.ok value) => if value = .null then none else some value
  | _ => none

/-- The value that the environment gives for a field. -/
def environmentValue? (environment : Environment) (name : String) : Option Value :=
  if name = "connections" then environmentConnections? environment
  else if name = "log_level" then (environment.getAnyCase? "hostauth_log_level").map .text
  else none

/-- A field has the value that is read for it, or its default if there is none. -/
def IsRead {α : Type} (value? : Option Value) (absent : α)
    (read : Value → Except (List FieldError) α) (a : α) : Prop :=
  match value? with
  | none => a = absent
  | some value => read value = .ok a

section
variable {environment : Environment} {files : Files} {above : List (String × Value)}
  {below : List (Value × Value)}

/-- The environment gives its fields in a fixed order. -/
theorem environmentFields_eq_ok (h : environmentFields environment = .ok above) :
    above =
      (environmentConnections? environment).toList.map (Prod.mk "connections") ++
        ((environment.getAnyCase? "hostauth_log_level").map Value.text).toList.map
          (Prod.mk "log_level") := by
  revert h
  unfold environmentFields environmentConnections?
  generalize environment.getAnyCase? "hostauth_log_level" = level?
  cases environment.getAnyCase? "hostauth_connections" with
  | none => cases level? <;> exact fun h => (Except.ok.inj h).symm
  | some s =>
    simp only [Option.map_some]
    cases Json.parse s with
    | error error => exact fun h => nomatch h
    | ok value => cases value <;> cases level? <;> exact fun h => (Except.ok.inj h).symm

theorem lookup_environmentFields (h : environmentFields environment = .ok above) (name : String) :
    above.reverse.lookup name = environmentValue? environment name := by
  rw [environmentFields_eq_ok h, environmentValue?]
  by_cases hconnections : name = "connections"
  · subst hconnections
    cases environmentConnections? environment <;>
      cases environment.getAnyCase? "hostauth_log_level" <;> rfl
  · by_cases hlevel : name = "log_level"
    · subst hlevel
      cases environmentConnections? environment <;>
        cases environment.getAnyCase? "hostauth_log_level" <;> rfl
    · have hc : (name == "connections") = false := by simpa using hconnections
      have hl : (name == "log_level") = false := by simpa using hlevel
      rw [if_neg hconnections, if_neg hlevel]
      cases environmentConnections? environment <;>
        cases environment.getAnyCase? "hostauth_log_level" <;> simp [List.lookup_cons, hc, hl]

theorem lookup_foldl (above : List (String × Value)) (below : List (Value × Value))
    (name : String) :
    Value.lookup name
        (above.foldl (fun acc (name, value) => Value.setEntry (.text name) value acc) below) =
      (above.reverse.lookup name).or (Value.lookup name below) := by
  induction above generalizing below with
  | nil => rfl
  | cons entry rest ih =>
    obtain ⟨first, value⟩ := entry
    rw [List.foldl_cons, ih, List.reverse_cons, List.lookup_append, Option.or_assoc]
    congr 1
    by_cases hname : name = first
    · subst hname
      simp [Value.lookup_setEntry]
    · have hne : (name == first) = false := by simpa using hname
      simp [Value.lookup_setEntry_of_ne hname, List.lookup_cons, hne]

theorem extraErrors_setEntry {name : String} (hname : name ∈ fieldNames) (value : Value)
    (entries : List (Value × Value)) :
    extraErrors (Value.setEntry (.text name) value entries) = extraErrors entries := by
  induction entries with
  | nil => simp [extraErrors, Value.setEntry, hname]
  | cons entry rest ih =>
    obtain ⟨k, v⟩ := entry
    unfold Value.setEntry
    split
    · rfl
    · simp only [extraErrors, List.filterMap_cons] at ih ⊢
      rw [ih]

theorem checkField_eq_ok_iff {α : Type} {entries : List (Value × Value)} {name : String}
    {absent a : α} {read : Value → Except (List FieldError) α} :
    checkField entries name absent read = .ok a ↔
      IsRead (Value.lookup name entries) absent read a := by
  unfold checkField IsRead
  cases Value.lookup name entries with
  | none => simp [eq_comm]
  | some value => exact Validation.mapError_eq_ok_iff

theorem extraErrors_foldl (h : ∀ entry ∈ above, entry.1 ∈ fieldNames)
    (below : List (Value × Value)) :
    extraErrors
        (above.foldl (fun acc (name, value) => Value.setEntry (.text name) value acc) below) =
      extraErrors below := by
  induction above generalizing below with
  | nil => rfl
  | cons entry rest ih =>
    have hrest := ih fun other hother => h other (List.mem_cons_of_mem entry hother)
    rw [List.foldl_cons, hrest, extraErrors_setEntry (h entry List.mem_cons_self)]

theorem hasTextKey_and_extraErrors_iff {entry : Value × Value} :
    hasTextKey entry = true ∧ extraErrors [entry] = [] ↔
      ∃ name ∈ fieldNames, entry.1 = .text name := by
  obtain ⟨k, v⟩ := entry
  cases k <;> simp [hasTextKey, extraErrors]

/-- All keys are texts and none is left over exactly if all of them are names of fields. -/
theorem keys_iff :
    below.all hasTextKey = true ∧ extraErrors below = [] ↔
      ∀ entry ∈ below, ∃ name ∈ fieldNames, entry.1 = .text name := by
  induction below with
  | nil => simp [extraErrors]
  | cons entry rest ih =>
    have hcons : extraErrors (entry :: rest) = extraErrors [entry] ++ extraErrors rest := by
      rw [← List.singleton_append, extraErrors, List.filterMap_append]
      rfl
    rw [List.forall_mem_cons, ← ih, ← hasTextKey_and_extraErrors_iff, hcons, List.all_cons,
      Bool.and_eq_true, List.append_eq_nil_iff]
    exact and_and_and_comm

theorem fields_eq_ok_iff {entries : List (Value × Value)} :
    fields environment files = .ok entries ↔
      ∃ above below, environmentFields environment = .ok above ∧
        fileFields environment files = .ok below ∧ below.all hasTextKey = true ∧
        above.foldl (fun acc (name, value) => Value.setEntry (.text name) value acc) below =
          entries := by
  unfold fields
  simp only [Validation.bind_eq_ok_iff, all_hasTextKey_foldl]
  constructor
  · rintro ⟨above, habove, below, hbelow, h⟩
    split at h
    · rename_i hkeys
      exact ⟨above, below, habove, hbelow, hkeys, Except.ok.inj h⟩
    · cases h
  · rintro ⟨above, below, habove, hbelow, hkeys, rfl⟩
    refine ⟨above, habove, below, hbelow, ?_⟩
    rw [if_pos hkeys]
    rfl

/-- The value of a field, from the environment or else from some fields below it. -/
def fieldValue? (environment : Environment) (below : List (Value × Value)) (name : String) :
    Option Value :=
  (environmentValue? environment name).or (Value.lookup name below)

theorem lookup_eq_fieldValue? (h : environmentFields environment = .ok above)
    (below : List (Value × Value)) (name : String) :
    Value.lookup name
        (above.foldl (fun acc (name, value) => Value.setEntry (.text name) value acc) below) =
      fieldValue? environment below name := by
  rw [lookup_foldl, lookup_environmentFields h, fieldValue?]

theorem mem_fieldNames_of_environmentFields (h : environmentFields environment = .ok above) :
    ∀ entry ∈ above, entry.1 ∈ fieldNames := by
  rw [environmentFields_eq_ok h]
  intro entry hentry
  rcases List.mem_append.mp hentry with hentry | hentry
  · obtain ⟨_, _, rfl⟩ := List.mem_map.mp hentry
    exact List.mem_cons_self
  · obtain ⟨_, _, rfl⟩ := List.mem_map.mp hentry
    exact List.mem_cons_of_mem _ List.mem_cons_self

/-- What is loaded, field by field. -/
theorem load_eq_ok_iff_fieldValue? {settings : Settings} :
    load environment files = .ok settings ↔
      ¬ FailsBefore environment ∧ obstacle? environment files = none ∧
        ∃ below, Supplies environment files below ∧
          (∀ entry ∈ below, ∃ name ∈ fieldNames, entry.1 = .text name) ∧
          IsRead (fieldValue? environment below "connections") [] readConnections
            settings.connections ∧
          IsRead (fieldValue? environment below "log_level") .warning readLogLevel
            settings.logLevel := by
  simp only [load_eq_ok_iff, fields_eq_ok_iff, read_eq_ok_iff, checkField_eq_ok_iff]
  constructor
  · rintro ⟨_, ⟨above, below, habove, hbelow, hkeys, rfl⟩, hconnections, hlevel, hextra⟩
    obtain ⟨hhome, hobstacle, hsupplies⟩ := fileFields_eq_ok_iff.mp hbelow
    rw [lookup_eq_fieldValue? habove] at hconnections hlevel
    rw [extraErrors_foldl (mem_fieldNames_of_environmentFields habove)] at hextra
    have hreadable : VariableReadable environment := variableReadable_iff.mpr ⟨above, habove⟩
    exact ⟨by simp [FailsBefore, hreadable, hhome], hobstacle, below, hsupplies,
      keys_iff.mp ⟨hkeys, hextra⟩, hconnections, hlevel⟩
  · rintro ⟨hbefore, hobstacle, below, hsupplies, hnames, hconnections, hlevel⟩
    obtain ⟨hreadable, hhome⟩ := not_or.mp hbefore
    obtain ⟨above, habove⟩ := variableReadable_iff.mp (Classical.not_not.mp hreadable)
    have hbelow := fileFields_eq_ok_iff.mpr ⟨by simpa using hhome, hobstacle, hsupplies⟩
    obtain ⟨hkeys, hextra⟩ := keys_iff.mpr hnames
    refine ⟨_, ⟨above, below, habove, hbelow, hkeys, rfl⟩, ?_, ?_, ?_⟩
    · rwa [lookup_eq_fieldValue? habove]
    · rwa [lookup_eq_fieldValue? habove]
    · rwa [extraErrors_foldl (mem_fieldNames_of_environmentFields habove)]

end

/-! ## One file -/

/-- **Only the first candidate that exists counts**, apart from a path that is too long.

* Two collections of files in which the same candidate exists first, and is the same, lead to the
  same settings or the same error, exactly if the search stumbles over the same path in both, or
  over none, or something is wrong before any file is looked for.
* What is behind a candidate that is there has no influence at all.
* A candidate that exists and cannot be used makes loading fail, and no other file is named.
* A blank file is as good as none.
* Settings are loaded field by field: from the environment, or else from the file, or else the
  default. -/
theorem first_existing_counts (environment : Environment) :
    (∀ files other, existing? environment files = existing? environment other →
      (load environment files = load environment other ↔
        FailsBefore environment ∨
          obstacle? environment files = obstacle? environment other)) ∧
    (∀ files other upTo later,
      candidates environment files.workingDirectory = upTo ++ later →
        other.workingDirectory = files.workingDirectory →
          (∀ path ∈ upTo, other.state path = files.state path) →
            (∃ path ∈ upTo, files.state path ≠ .absent) →
              load environment other = load environment files) ∧
    (∀ files path state, existing? environment files = some (path, state) → Unusable state →
      ∃ cause, load environment files = .error (.source cause) ∧
        ∀ name error, cause = .file name error → name = path.text) ∧
    (∀ files other path content, existing? environment files = some (path, .text content) →
      content = "" ∨ Yaml.read content = .ok .null → obstacle? environment files = none →
        existing? environment other = none → obstacle? environment other = none →
          load environment files = load environment other) ∧
    ∀ files settings, load environment files = .ok settings ↔
      ¬ FailsBefore environment ∧ obstacle? environment files = none ∧
        ∃ below, Supplies environment files below ∧
          (∀ entry ∈ below, ∃ name ∈ fieldNames, entry.1 = .text name) ∧
          IsRead (fieldValue? environment below "connections") [] readConnections
            settings.connections ∧
          IsRead (fieldValue? environment below "log_level") .warning readLogLevel
            settings.logLevel := by
  refine ⟨fun _ _ => load_eq_iff_of_existing?_eq, fun _ _ _ _ => load_eq_of_later,
    fun _ _ _ => load_of_unusable, ?blank, fun _ _ => load_eq_ok_iff_fieldValue?⟩
  case blank =>
    intro files other path content hexisting hblank hobstacle hother hobstacle'
    have hyaml : Yaml.read content = .ok .null := by
      rcases hblank with rfl | hyaml
      · exact read_empty
      · exact hyaml
    exact load_of_blank (.blank hexisting hyaml) hobstacle hother hobstacle'

/-- Some files and directories, seen from one of them. -/
def filesOf (entries : List (List String × Option String)) : Files :=
  (FileTree.mk ⟨"/", ["cwd"]⟩ entries).files

/-- A configuration file with a level. -/
def levelEntry (level : String) : List String × Option String :=
  (["cwd", "hostauth.yaml"], some ("log_level: " ++ level ++ "\n"))

/-- A file that is looked for later. -/
def laterEntry : List String × Option String :=
  ([".config", "mail-hostauth", "config.yaml"], some "log_level: ERROR\n")

theorem first_existing_counts_level :
    load [] (filesOf [levelEntry "INFO", laterEntry]) =
        load [] (filesOf [(["conf"], none), levelEntry "INFO"]) ∧
      load [] (filesOf [levelEntry "INFO", laterEntry]) = load [] (filesOf [levelEntry "INFO"]) ∧
      (∃ cause, load [] (filesOf [(["cwd", "hostauth.yaml"], none), laterEntry]) =
          .error (.source cause) ∧
        ∀ name error, cause = .file name error →
          name = (FilePath.mk "/" ["cwd", "hostauth.yaml"]).text) ∧
      load [] (filesOf [(["cwd", "hostauth.yaml"], some ""), laterEntry]) =
        load [] (filesOf []) ∧
      load [("hostauth_log_level", "debug")] (filesOf [levelEntry "INFO", laterEntry]) =
        .ok ⟨[], .debug⟩ := by
  obtain ⟨hagree, hlater, hunusable, hblank, _⟩ := first_existing_counts []
  obtain ⟨_, _, _, _, hload⟩ := first_existing_counts [("hostauth_log_level", "debug")]
  refine ⟨?agree, ?later, ?unusable, ?blank, ?load⟩
  case agree => exact (hagree _ _ (by decide +kernel)).mpr (.inr (by decide +kernel))
  case later =>
    exact hlater _ _ [⟨"/", ["cwd", "hostauth.yaml"]⟩]
      [⟨"/", [".config", "mail-hostauth", "config.yaml"]⟩] (by decide +kernel) rfl
      (by decide +kernel) ⟨_, List.mem_cons_self, by decide +kernel⟩
  case unusable => exact hunusable _ _ .directory (by decide +kernel) .directory
  case blank =>
    exact hblank _ _ ⟨"/", ["cwd", "hostauth.yaml"]⟩ "" (by decide +kernel) (.inl rfl)
      (by decide +kernel) (by decide +kernel) (by decide +kernel)
  case load =>
    have hexisting : existing? [("hostauth_log_level", "debug")]
        (filesOf [levelEntry "INFO", laterEntry]) =
          some (⟨"/", ["cwd", "hostauth.yaml"]⟩, .text "log_level: INFO\n") := by
      decide +kernel
    have hyaml : Yaml.read "log_level: INFO\n" =
        .ok (.record [(.text "log_level", .text "INFO")]) := by
      decide +kernel
    have hreadable : VariableReadable [("hostauth_log_level", "debug")] :=
      variableReadable_iff.mpr ⟨_, rfl⟩
    refine (hload _ _).mpr ⟨?_, by decide +kernel, _, .mapping hexisting hyaml, ?_, rfl, ?_⟩
    · simp only [FailsBefore, hreadable, not_true_eq_false, false_or]
      decide +kernel
    · simp [fieldNames]
    · rfl

/-- A name that no directory can hold. -/
def longName : String := String.ofList (List.replicate 300 'x')

/-- The configuration file is looked for under the long name first. -/
def longNameFirst : Environment := [("HOSTAUTH_CONFIG_FILE", "/conf/" ++ longName)]

/-- Files in which the directory of the long name is missing. -/
def confMissing : Files := filesOf [levelEntry "INFO"]

/-- The same files with the directory. -/
def confPresent : Files := filesOf [(["conf"], none), levelEntry "INFO"]

theorem candidates_longNameFirst (entries : List (List String × Option String)) :
    candidates longNameFirst (filesOf entries).workingDirectory =
      [⟨"/", ["conf", longName]⟩, ⟨"/", ["cwd", "hostauth.yaml"]⟩,
        ⟨"/", [".config", "mail-hostauth", "config.yaml"]⟩] := by
  have htoList : longName.toList = List.replicate 300 'x' := String.toList_ofList
  have hlist : ("/conf/" ++ longName).toList = "/conf/".toList ++ List.replicate 300 'x' := by
    rw [String.toList_append, htoList]
  have hpath : FilePath.ofString ("/conf/" ++ longName) = ⟨"/", ["conf", longName]⟩ := by
    rw [FilePath.ofString, hlist]
    decide +kernel
  have hget : longNameFirst.get? "HOSTAUTH_CONFIG_FILE" = some ("/conf/" ++ longName) := rfl
  have hne : "/conf/" ++ longName ≠ "" := by simp
  have hdirectory : (filesOf entries).workingDirectory = ⟨"/", ["cwd"]⟩ := rfl
  simp only [candidates, hget, hpath, if_neg hne, hdirectory]
  decide +kernel

/-- The same candidate exists first in both, but only one of the searches gets that far. -/
theorem load_differs_on_longName :
    existing? longNameFirst confMissing = existing? longNameFirst confPresent ∧
      load longNameFirst confMissing = .ok ⟨[], .info⟩ ∧
      load longNameFirst confPresent =
        .error (.source (.pathTooLong (FilePath.mk "/" ["conf", longName]).text)) := by
  have hmissing : configFile? longNameFirst confMissing =
      some (⟨"/", ["cwd", "hostauth.yaml"]⟩, .text "log_level: INFO\n") := by
    rw [configFile?, confMissing, candidates_longNameFirst]
    decide +kernel
  have hpresent : configFile? longNameFirst confPresent =
      some (⟨"/", ["conf", longName]⟩, .nameTooLong) := by
    rw [configFile?, confPresent, candidates_longNameFirst]
    decide +kernel
  have habove : environmentFields longNameFirst = .ok [] := rfl
  have hhome : homeUnknown longNameFirst = false := rfl
  refine ⟨?_, ?_, ?_⟩
  · rw [existing?, existing?, confMissing, confPresent, candidates_longNameFirst,
      candidates_longNameFirst]
    decide +kernel
  · have hyaml : Yaml.read "log_level: INFO\n" =
        .ok (.record [(.text "log_level", .text "INFO")]) := by
      decide +kernel
    have hbelow : fileFields longNameFirst confMissing =
        .ok [(.text "log_level", .text "INFO")] := by
      simp only [fileFields, hhome, hmissing, fieldsOfText, hyaml, Bool.false_eq_true, if_false]
    exact load_eq_ok_iff.mpr
      ⟨_, fields_eq_ok_iff.mpr ⟨[], _, habove, hbelow, rfl, rfl⟩, by decide +kernel⟩
  · exact load_of_fileFields (variableReadable_iff.mpr ⟨[], habove⟩)
      (by simp [fileFields, hhome, hpresent])

end Settings

end MailConnection
