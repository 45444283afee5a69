import Mathlib.Data.List.Forall2
import Mathlib.Data.List.Nodup
import MailConnection.Proofs.Settings.Loading

/-!
# Names of configured connections

No two connections of a configuration may have the same name.  `firstRepeated?_cases` says what
the search for a name that is given twice finds, and `Configured.read_eq_ok_iff` and
`Configured.read_of_not_nodup` what comes of it in the settings: a list of valid entries is either
taken as it is, or refused for the first entry with the name of an earlier one, whatever else is
wrong with the settings.
-/

namespace MailConnection

namespace Settings

/-! ## The search -/

/-- Either no name has been seen before or is given twice, or the one that is found is the first
such name. -/
theorem firstRepeated?_cases {seen : List String} (hseen : seen.Nodup) (names : List String) :
    (firstRepeated? seen names = none ∧ (seen ++ names).Nodup) ∨
      ∃ before id after, names = before ++ id :: after ∧ (seen ++ before).Nodup ∧
        id ∈ seen ++ before ∧ firstRepeated? seen names = some id := by
  induction names generalizing seen with
  | nil => exact .inl ⟨rfl, by simpa using hseen⟩
  | cons first rest ih =>
    by_cases hfirst : first ∈ seen
    · refine .inr ⟨[], first, rest, rfl, by simpa using hseen, by simpa using hfirst, ?_⟩
      simp [firstRepeated?, hfirst]
    · -- from here on the name counts as seen
      have hstep : firstRepeated? seen (first :: rest) = firstRepeated? (first :: seen) rest := by
        simp [firstRepeated?, hfirst]
      rw [hstep]
      rcases ih (List.nodup_cons.mpr ⟨hfirst, hseen⟩) with ⟨hnone, hnodup⟩ | hsome
      · exact .inl ⟨hnone, List.nodup_middle.mpr hnodup⟩
      · obtain ⟨before, id, after, rfl, hnodup, hmem, hfound⟩ := hsome
        refine .inr ⟨first :: before, id, after, rfl, List.nodup_middle.mpr hnodup, ?_, hfound⟩
        simpa [or_left_comm] using hmem

/-! ## Lists of connections -/

/-- All entries of a list are valid, and are read as some connections. -/
abbrev Valid (items : List Value) (connections : List NamedConnection) : Prop :=
  List.Forall₂ (fun value connection => NamedConnection.read value = .ok connection) items
    connections

/-- A connection is the first one with the name of an earlier one. -/
def FirstRepeat (connections : List NamedConnection) (connection : NamedConnection) : Prop :=
  ∃ before after, connections = before ++ connection :: after ∧ (before.map (·.id)).Nodup ∧
    connection.id ∈ before.map (·.id)

/-- The error of a name that is given twice, as an error of the list. -/
def duplicateFault (id : String) : Fault := .value ("duplicate connection id '" ++ id ++ "'")

section
variable {items : List Value} {connections : List NamedConnection} {connection : NamedConnection}

theorem FirstRepeat.not_nodup (h : FirstRepeat connections connection) :
    ¬ (connections.map (·.id)).Nodup := by
  obtain ⟨before, after, rfl, _, hmem⟩ := h
  intro hnodup
  rw [List.map_append, List.map_cons, List.nodup_middle, List.nodup_cons] at hnodup
  exact hnodup.1 (List.mem_append_left _ hmem)

theorem readEntries_of_valid (h : Valid items connections) (start : Nat) :
    readEntries start items = .ok connections := by
  induction h generalizing start with
  | nil => rfl
  | cons hread _ ih => rw [readEntries, hread, ih]

theorem readConnections_cases (h : Valid items connections) :
    ((connections.map (·.id)).Nodup ∧ readConnections (.list items) = .ok connections) ∨
      ∃ connection, FirstRepeat connections connection ∧
        readConnections (.list items) = .error [⟨[], duplicateFault connection.id⟩] := by
  have hentries := readEntries_of_valid h 0
  rcases firstRepeated?_cases List.nodup_nil (connections.map (·.id)) with
    ⟨hnone, hnodup⟩ | ⟨names, id, later, hsplit, hnodup, hmem, hsome⟩
  · refine .inl ⟨hnodup, ?_⟩
    simp only [readConnections, hentries, bind, Except.bind, hnone]
    rfl
  · have hread : readConnections (.list items) = .error [⟨[], duplicateFault id⟩] := by
      simp only [readConnections, hentries, bind, Except.bind, hsome]
      rfl
    obtain ⟨before, rest, rfl, rfl, hrest⟩ := List.map_eq_append_iff.mp hsplit
    obtain ⟨connection, after, rfl, rfl, rfl⟩ := List.map_eq_cons_iff.mp hrest
    exact .inr ⟨connection, ⟨before, after, rfl, hnodup, hmem⟩, hread⟩

end

/-! ## Settings -/

/-- Some fields of settings hold a list of valid connections. -/
def Configured (entries : List (Value × Value)) (connections : List NamedConnection) : Prop :=
  ∃ items, Value.lookup "connections" entries = some (.list items) ∧ Valid items connections

/-- Everything but the connections is accepted. -/
def RestAccepted (entries : List (Value × Value)) : Prop :=
  (∃ level, checkField entries "log_level" LogLevel.warning readLogLevel = .ok level) ∧
    extraErrors entries = []

/-- The error of a name that is given twice. -/
def duplicateError (id : String) : FieldError := ⟨[.field "connections"], duplicateFault id⟩

namespace Configured

variable {entries : List (Value × Value)} {connections : List NamedConnection}

theorem checkField_cases (h : Configured entries connections) :
    ((connections.map (·.id)).Nodup ∧
        checkField entries "connections" [] readConnections = .ok connections) ∨
      ∃ connection, FirstRepeat connections connection ∧
        checkField entries "connections" [] readConnections =
          .error [duplicateError connection.id] := by
  obtain ⟨items, hlookup, hvalid⟩ := h
  unfold checkField
  rw [hlookup]
  rcases readConnections_cases hvalid with ⟨hnodup, hread⟩ | ⟨connection, hrepeat, hread⟩
  · exact .inl ⟨hnodup, by simp only [hread]; rfl⟩
  · exact .inr ⟨connection, hrepeat, by simp only [hread]; rfl⟩

/-- Settings are accepted exactly if no name is given twice and the rest is accepted, and then the
connections are the ones that were configured. -/
theorem read_eq_ok_iff (h : Configured entries connections) {settings : Settings} :
    read entries = .ok settings ↔
      settings.connections = connections ∧ (connections.map (·.id)).Nodup ∧
        checkField entries "log_level" LogLevel.warning readLogLevel = .ok settings.logLevel ∧
        extraErrors entries = [] := by
  rw [Settings.read_eq_ok_iff]
  rcases h.checkField_cases with ⟨hnodup, hcheck⟩ | ⟨connection, hfirst, hcheck⟩
  · simp [hcheck, hnodup, @eq_comm _ connections]
  · simp [hcheck, hfirst.not_nodup]

theorem exists_read_iff (h : Configured entries connections) :
    (∃ settings, read entries = .ok settings) ↔
      (connections.map (·.id)).Nodup ∧ RestAccepted entries := by
  simp only [h.read_eq_ok_iff]
  constructor
  · rintro ⟨settings, _, hnodup, hlevel, hextra⟩
    exact ⟨hnodup, ⟨_, hlevel⟩, hextra⟩
  · rintro ⟨hnodup, ⟨level, hlevel⟩, hextra⟩
    exact ⟨⟨connections, level⟩, rfl, hnodup, hlevel, hextra⟩

/-- A name that is given twice is reported before everything else that is wrong. -/
theorem read_of_not_nodup (h : Configured entries connections)
    (hrepeat : ¬ (connections.map (·.id)).Nodup) :
    ∃ connection others, FirstRepeat connections connection ∧
      read entries = .error (duplicateError connection.id :: others) := by
  rcases h.checkField_cases with ⟨hnodup, _⟩ | ⟨connection, hfirst, hcheck⟩
  · exact absurd hnodup hrepeat
  · refine ⟨connection,
      errorsOf (checkField entries "log_level" LogLevel.warning readLogLevel) ++
        extraErrors entries, hfirst, ?_⟩
    simp only [read, hcheck, errorsOf, List.singleton_append]
    rfl

end Configured

theorem message_duplicateError (id : String) (others : List FieldError) :
    (SettingsError.refused (duplicateError id :: others)).message =
      "Invalid value for 'connections': Value error, duplicate connection id '" ++ id ++ "'" :=
  calc (SettingsError.refused (duplicateError id :: others)).message
      = "Invalid value for 'connections': " ++
          ("Value error, " ++ ("duplicate connection id '" ++ id ++ "'")) := rfl
    _ = "Invalid value for 'connections': Value error, duplicate connection id '" ++ id ++ "'" := by
      simp only [← String.append_assoc]
      rfl

end Settings

end MailConnection
