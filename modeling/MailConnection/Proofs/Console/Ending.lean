import MailConnection.Proofs.Console.CommandLine
import MailConnection.Proofs.Directory.Resolution
import MailConnection.Proofs.Settings.Loading

/-!
# How a run ends

A run that gets no command ends with status 0, 1 or 2.  A command should end with status 0 if it
does what it is for (`Succeeds`), and otherwise say why it does not (`Complains`) and end with
status 1.  It does, apart from what `Escapes` lists:

* a connection string for `decode` whose port has too many digits
  (`exists_reading_of_isSizeError`);
* a value for `encode` that its field does not accept, or a protocol that is no text
  (`EncodeFields.faults`);
* settings for `list` and `show` that cannot be gathered for a reason that names no file
  (`Settings.Unplaced`).

`ends_report` says this of every command, and `run_exit` of the program.
-/

namespace MailConnection.Console

/-! ## The first of several failures -/

/-- The result is the first of some failures; there is a value if there are none. -/
inductive FirstOf {α : Type} : List Failure → Except Failure α → Prop
  | value (a : α) : FirstOf [] (.ok a)
  | failure (cause : Failure) (later : List Failure) : FirstOf (cause :: later) (.error cause)

namespace FirstOf

variable {α β : Type} {causes later : List Failure} {result : Except Failure α}

theorem bind (h : FirstOf causes result) {f : α → Except Failure β}
    (hf : ∀ a, FirstOf later (f a)) : FirstOf (causes ++ later) (result >>= f) := by
  cases h with
  | value a => exact hf a
  | failure cause rest => exact .failure cause (rest ++ later)

theorem eq_error_iff (h : FirstOf causes result) (cause : Failure) :
    result = .error cause ↔ causes.head? = some cause := by
  cases h <;> simp

end FirstOf

/-! ## The fields of `encode` -/

/-- The failure of a field that does not accept a value, if that is so. -/
def refusal {α : Type} (name : String) : Except Fault α → List Failure
  | .ok _ => []
  | .error fault => [.refused ⟨[.field name], fault⟩]

/-- All that is wrong with the fields of `encode`, in the order in which they are looked at. -/
def EncodeFields.faults (fields : EncodeFields) : List Failure :=
  (match fields.protocol with
    | .text _ => refusal "address" (Validation.readOptionalText fields.host) ++
        refusal "port" (Validation.readInt fields.port)
    | _ => [.protocolNotText]) ++
  ((match fields.login with
    | .null => []
    | login => refusal "login" (Validation.readOptionalText login) ++
        refusal "password" (Validation.readOptionalText fields.password)) ++
    refusal "domain" (Validation.readOptionalText fields.domain))

theorem firstOf_storeField (account : Account) {name : String}
    (hname : name ∈ ["protocol", "address", "login", "password", "domain"]) (value : Value) :
    FirstOf (refusal name (Validation.readOptionalText value))
      (storeField account name value) := by
  have hrefused := account.snd_assign_text hname value
  unfold storeField
  generalize account.assign name value = assigned at hrefused ⊢
  obtain ⟨changed, error?⟩ := assigned
  cases hread : Validation.readOptionalText value with
  | ok text =>
    simp only [hread] at hrefused
    subst hrefused
    exact .value changed
  | error fault =>
    simp only [hread] at hrefused
    subst hrefused
    exact .failure _ []

theorem firstOf_connected (fields : EncodeFields) :
    FirstOf
      (match fields.protocol with
        | .text _ => refusal "address" (Validation.readOptionalText fields.host) ++
            refusal "port" (Validation.readInt fields.port)
        | _ => [.protocolNotText])
      fields.connected := by
  unfold EncodeFields.connected
  cases fields.protocol with
  | text protocol =>
    simp only [Account.connect_eq]
    cases Validation.readOptionalText fields.host with
    | error fault => exact .failure _ _
    | ok host =>
      cases Validation.readInt fields.port with
      | error fault => exact .failure _ _
      | ok port => exact .value _
  | _ => exact .failure _ _

/-- The login and the password are checked only if there is a login, the domain always. -/
theorem firstOf_complete (fields : EncodeFields) (account : Account) :
    FirstOf
      ((match fields.login with
        | .null => []
        | login => refusal "login" (Validation.readOptionalText login) ++
            refusal "password" (Validation.readOptionalText fields.password)) ++
        refusal "domain" (Validation.readOptionalText fields.domain))
      (fields.complete account) := by
  unfold EncodeFields.complete
  have hdomain : ∀ authorized : Account,
      FirstOf (refusal "domain" (Validation.readOptionalText fields.domain))
        (storeField authorized "domain" fields.domain) :=
    fun authorized => firstOf_storeField authorized (by decide) fields.domain
  -- a field is looked at only when those before it are accepted
  have hcredentials : ∀ login, FirstOf
      ((refusal "login" (Validation.readOptionalText login) ++
        refusal "password" (Validation.readOptionalText fields.password)) ++
        refusal "domain" (Validation.readOptionalText fields.domain))
      (do
        let named ← storeField account "login" login
        let stored ← storeField named "password" fields.password
        storeField (stored.setLogin stored.login stored.password) "domain" fields.domain) := by
    intro login
    rw [List.append_assoc]
    refine (firstOf_storeField account (by decide) login).bind fun named => ?_
    exact (firstOf_storeField named (by decide) fields.password).bind fun stored => hdomain _
  cases fields.login with
  | null => exact hdomain account
  | _ => exact hcredentials _

theorem firstOf_account (fields : EncodeFields) :
    FirstOf fields.faults (fields.connected >>= fields.complete) :=
  (firstOf_connected fields).bind (firstOf_complete fields)

theorem result_encodeReport (fields : EncodeFields) (verbose : Bool) :
    (encodeReport verbose fields).result =
      match fields.connected >>= fields.complete with
      | .error cause => .failed cause
      | .ok account =>
        match account.encode with
        | .ok s => .printed (s ++ "\n")
        | .error error => .error error.message := by
  unfold encodeReport
  cases fields.connected with
  | error cause => rfl
  | ok connected =>
    simp only [bind, Except.bind]
    cases fields.complete connected with
    | error cause => rfl
    | ok account => cases hencode : account.encode <;> simp only [hencode]

/-! ## What a command comes to -/

/-- The settings are wrong in themselves, or come from a file that is. -/
def isTold : SettingsError → Bool
  | .refused _ => true
  | .source cause => Settings.isPlaced cause

section
variable (environment : Environment) (files : Files)

/-- What a command is asked for can be told. -/
def Succeeds : Command → Prop
  | .encode fields => ∃ account s,
      fields.connected >>= fields.complete = .ok account ∧ account.encode = .ok s
  | .decode s _ => ∃ account, ConnectionString.decode s = .ok account
  | .port protocol ssl => ∃ port, defaultPort? protocol ssl = some port
  | .list => ∃ settings, Settings.load environment files = .ok settings
  | .show id _ => ∃ settings account, Settings.load environment files = .ok settings ∧
      (Directory.ofList settings.connections).account environment id = .ok account

/-- What a command says when it cannot tell what it is asked for. -/
def Complains : Command → String → Prop
  | .encode fields, complaint => ∃ account error,
      fields.connected >>= fields.complete = .ok account ∧ account.encode = .error error ∧
        complaint = "Error: " ++ error.message
  | .decode s _, complaint => ∃ error, ConnectionString.decode s = .error error ∧
      error.isSizeError = false ∧ complaint = "Error: " ++ error.message
  | .port protocol ssl, complaint => defaultPort? protocol ssl = none ∧
      complaint = "No default port for protocol '" ++ protocol ++ "'"
  | .list, complaint => ∃ error, Settings.load environment files = .error error ∧
      isTold error = true ∧ complaint = "Error: " ++ error.message
  | .show id _, complaint =>
      (∃ error, Settings.load environment files = .error error ∧ isTold error = true ∧
        complaint = "Error: " ++ error.message) ∨
      ∃ settings error, Settings.load environment files = .ok settings ∧
        (Directory.ofList settings.connections).account environment id = .error error ∧
        complaint = "Error: " ++ error.message

/-- The failures that a command does not report. -/
inductive Escapes : Command → Failure → Prop
  | port {s : String} {showPassword : Bool} {r : ConnectionString.Reading} (hr : r.Legal)
      (htext : r.text = s.toList) (hlong : Text.maxNumeralLength < r.digitCount) :
      Escapes (.decode s showPassword) (.unreadable (.portTooLong r.digitCount))
  | field {fields : EncodeFields} {cause : Failure} (hfirst : fields.faults.head? = some cause) :
      Escapes (.encode fields) cause
  | list {cause : SourceError} (hcause : Settings.Unplaced environment files cause) :
      Escapes .list (.source cause)
  | show {id : String} {showPassword : Bool} {cause : SourceError}
      (hcause : Settings.Unplaced environment files cause) :
      Escapes (.show id showPassword) (.source cause)

/-- A result is what the command is asked for, a complaint, or a failure that escapes, each
exactly when it should be. -/
structure Ends (command : Command) (result : Result) : Prop where
  printed_iff : (∃ text, result = .printed text) ↔ Succeeds environment files command
  rejected_iff : ∀ complaint,
    result = .rejected complaint ↔ Complains environment files command complaint
  failed_iff : ∀ cause, result = .failed cause ↔ Escapes environment files command cause

/-- The outcome of a command that says why it fails, after the notes that are shown. -/
structure Reported (command : Command) (outcome : Outcome) : Prop where
  exit : outcome.exit = .status 1
  output : outcome.output = ""
  errors : ∃ notes complaint, Complains environment files command complaint ∧
    outcome.errors = String.join (List.map Note.line notes) ++ complaint ++ "\n"

end

section
variable {environment : Environment} {files : Files} {command : Command}

theorem ends_printed (hsucceeds : Succeeds environment files command)
    (hcomplains : ∀ complaint, ¬ Complains environment files command complaint)
    (hescapes : ∀ cause, ¬ Escapes environment files command cause) (text : String) :
    Ends environment files command (.printed text) :=
  ⟨by simp [hsucceeds], by simp [hcomplains], by simp [hescapes]⟩

theorem ends_rejected {complaint : String} (hsucceeds : ¬ Succeeds environment files command)
    (hcomplains : ∀ other, Complains environment files command other ↔ other = complaint)
    (hescapes : ∀ cause, ¬ Escapes environment files command cause) :
    Ends environment files command (.rejected complaint) :=
  ⟨by simp [hsucceeds], by simp [hcomplains, eq_comm], by simp [hescapes]⟩

theorem ends_failed {cause : Failure} (hsucceeds : ¬ Succeeds environment files command)
    (hcomplains : ∀ complaint, ¬ Complains environment files command complaint)
    (hescapes : ∀ other, Escapes environment files command other ↔ other = cause) :
    Ends environment files command (.failed cause) :=
  ⟨by simp [hsucceeds], by simp [hcomplains], by simp [hescapes, eq_comm]⟩

/-! ## Encoding, decoding and ports -/

theorem escapes_encode_iff {fields : EncodeFields} {cause : Failure} :
    Escapes environment files (.encode fields) cause ↔
      fields.connected >>= fields.complete = .error cause := by
  rw [(firstOf_account fields).eq_error_iff]
  exact ⟨fun h => by cases h with | field hfirst => exact hfirst, .field⟩

theorem ends_encode (fields : EncodeFields) (verbose : Bool) :
    Ends environment files (.encode fields) (encodeReport verbose fields).result := by
  rw [result_encodeReport]
  cases hresult : fields.connected >>= fields.complete with
  | error cause =>
    exact ends_failed (by simp [Succeeds, hresult]) (by simp [Complains, hresult])
      (by simp [escapes_encode_iff, hresult, eq_comm])
  | ok account =>
    have hnone : ∀ cause, ¬ Escapes environment files (.encode fields) cause := by
      simp [escapes_encode_iff, hresult]
    cases hencode : account.encode with
    | ok s =>
      simp only [hencode]
      exact ends_printed (by simp [Succeeds, hresult, hencode])
        (by simp [Complains, hresult, hencode]) hnone _
    | error error =>
      simp only [hencode]
      exact ends_rejected (by simp [Succeeds, hresult, hencode])
        (by simp [Complains, hresult, hencode]) hnone

/-- Text that is refused for the size of a number has a legal reading. -/
theorem exists_reading_of_isSizeError {s : String} {error : DecodeError}
    (h : ConnectionString.decode s = .error error) (hsize : error.isSizeError = true) :
    ∃ r : ConnectionString.Reading, r.Legal ∧ r.text = s.toList ∧
      Text.maxNumeralLength < r.digitCount ∧ error = .portTooLong r.digitCount := by
  -- a size error is raised after everything else has been found in order
  obtain ⟨r, hr, htext⟩ := ConnectionString.exists_reading_of_decode (s := s) fun e he => by
    rwa [Except.error.inj (h.symm.trans he)] at hsize
  have hdecode := ConnectionString.Reading.decode_of_reading hr htext
  rw [h] at hdecode
  split at hdecode
  · rename_i hlong
    exact ⟨r, hr, htext, hlong, Except.error.inj hdecode⟩
  · simp at hdecode

theorem escapes_decode_iff {s : String} {showPassword : Bool} {cause : Failure} :
    Escapes environment files (.decode s showPassword) cause ↔
      ∃ error, ConnectionString.decode s = .error error ∧ error.isSizeError = true ∧
        cause = .unreadable error := by
  constructor
  · intro h
    cases h with
    | @port _ _ r hr htext hlong =>
      refine ⟨.portTooLong r.digitCount, ?_, rfl, rfl⟩
      rw [ConnectionString.Reading.decode_of_reading hr htext, if_pos hlong]
  · rintro ⟨error, hdecode, hsize, rfl⟩
    obtain ⟨r, hr, htext, hlong, rfl⟩ := exists_reading_of_isSizeError hdecode hsize
    exact .port hr htext hlong

theorem ends_decode (s : String) (showPassword verbose : Bool) :
    Ends environment files (.decode s showPassword)
      (decodeReport verbose s showPassword).result := by
  unfold decodeReport
  cases hdecode : ConnectionString.decode s with
  | ok account =>
    exact ends_printed (by simp [Succeeds, hdecode]) (by simp [Complains, hdecode])
      (by simp [escapes_decode_iff, hdecode]) _
  | error error =>
    simp only [Result.ofDecodeError]
    cases hsize : error.isSizeError with
    | true =>
      exact ends_failed (by simp [Succeeds, hdecode]) (by simp [Complains, hdecode, hsize])
        (by simp [escapes_decode_iff, hdecode, hsize])
    | false =>
      exact ends_rejected (by simp [Succeeds, hdecode]) (by simp [Complains, hdecode, hsize])
        (by simp [escapes_decode_iff, hdecode, hsize])

theorem ends_port (protocol : String) (ssl : Bool) :
    Ends environment files (.port protocol ssl) (portReport protocol ssl).result := by
  have hnone : ∀ cause, ¬ Escapes environment files (.port protocol ssl) cause := by
    intro cause h
    cases h
  unfold portReport
  cases hport : defaultPort? protocol ssl with
  | some port =>
    exact ends_printed (by simp [Succeeds, hport]) (by simp [Complains, hport]) hnone _
  | none => exact ends_rejected (by simp [Succeeds, hport]) (by simp [Complains, hport]) hnone

/-! ## Configured connections -/

theorem escapes_list_iff {cause : Failure} :
    Escapes environment files .list cause ↔
      ∃ source, Settings.isPlaced source = false ∧
        Settings.load environment files = .error (.source source) ∧ cause = .source source := by
  constructor
  · intro h
    cases h with
    | list hcause =>
      obtain ⟨hplaced, hload⟩ := Settings.unplaced_iff.mp hcause
      exact ⟨_, hplaced, hload, rfl⟩
  · rintro ⟨source, hplaced, hload, rfl⟩
    exact .list (Settings.unplaced_iff.mpr ⟨hplaced, hload⟩)

theorem escapes_show_iff {id : String} {showPassword : Bool} {cause : Failure} :
    Escapes environment files (.show id showPassword) cause ↔
      Escapes environment files .list cause := by
  constructor
  · intro h
    cases h with
    | «show» hcause => exact .list hcause
  · intro h
    cases h with
    | list hcause => exact .show hcause

theorem ofSettingsError_of_isTold {error : SettingsError} (h : isTold error = true) :
    Result.ofSettingsError error = .error error.message := by
  cases error with
  | refused errors => rfl
  | source cause =>
    cases cause with
    | file path error => rfl
    | _ => exact absurd h Bool.false_ne_true

theorem ofSettingsError_of_not_isTold {cause : SourceError} (h : Settings.isPlaced cause = false) :
    Result.ofSettingsError (.source cause) = .failed (.source cause) := by
  cases cause with
  | file path error => exact absurd h.symm Bool.false_ne_true
  | _ => rfl

/-- A command that loads the settings ends well if it does so with what is loaded. -/
theorem ends_withDirectory {use : Bool → Directory → Report} (verbose : Bool)
    (hescapes : ∀ cause, Escapes environment files command cause ↔
      Escapes environment files .list cause)
    (hunloaded : ∀ error, Settings.load environment files = .error error →
      ¬ Succeeds environment files command ∧ ∀ complaint,
        Complains environment files command complaint ↔
          isTold error = true ∧ complaint = "Error: " ++ error.message)
    (huse : ∀ settings showNotes, Settings.load environment files = .ok settings →
      Ends environment files command
        (use showNotes (Directory.ofList settings.connections)).result) :
    Ends environment files command (withDirectory verbose environment files use).result := by
  simp only [escapes_list_iff] at hescapes
  unfold withDirectory
  cases hload : Settings.load environment files with
  | ok settings => exact huse settings _ hload
  | error error =>
    obtain ⟨hsucceeds, hcomplains⟩ := hunloaded error hload
    cases htold : isTold error with
    | true =>
      -- the error is a complaint, and therefore not one of those that escape
      simp only [ofSettingsError_of_isTold htold]
      refine ends_rejected hsucceeds (by simp [hcomplains, htold]) fun cause hcause => ?_
      obtain ⟨source, hplaced, hsource, _⟩ := (hescapes cause).mp hcause
      obtain rfl := Except.error.inj (hload.symm.trans hsource)
      exact Bool.false_ne_true (hplaced.symm.trans htold)
    | false =>
      cases error with
      | refused errors => exact absurd htold.symm Bool.false_ne_true
      | source source =>
        simp only [ofSettingsError_of_not_isTold htold]
        refine ends_failed hsucceeds (by simp [hcomplains, htold]) fun other => ?_
        rw [hescapes]
        constructor
        · rintro ⟨found, _, hfound, rfl⟩
          rw [SettingsError.source.inj (Except.error.inj (hload.symm.trans hfound))]
        · rintro rfl
          exact ⟨source, htold, hload, rfl⟩

theorem mapM_connectionLine_ok {connections : List NamedConnection}
    (h : ∀ connection ∈ connections,
      ∃ account, ConnectionString.decode connection.connection = .ok account) :
    ∃ lines, connections.mapM connectionLine = .ok lines := by
  induction connections with
  | nil => exact ⟨[], rfl⟩
  | cons first rest ih =>
    obtain ⟨account, hdecode⟩ := h first List.mem_cons_self
    obtain ⟨lines, hlines⟩ := ih fun other hother => h other (List.mem_cons_of_mem first hother)
    obtain ⟨line, hline⟩ : ∃ line, connectionLine first = .ok line := by
      rw [connectionLine, hdecode]
      exact ⟨_, rfl⟩
    refine ⟨line :: lines, ?_⟩
    rw [List.mapM_cons, hline, hlines]
    rfl

/-- What is loaded can be listed. -/
theorem exists_result_listReport {settings : Settings}
    (h : Settings.load environment files = .ok settings) (showNotes : Bool) :
    ∃ text, (listReport showNotes (Directory.ofList settings.connections)).result =
      .printed text := by
  obtain ⟨lines, hlines⟩ := mapM_connectionLine_ok fun connection hmem =>
    Settings.decode_of_load h (Directory.mem_of_mem_ofList hmem)
  unfold listReport
  split
  · exact ⟨_, rfl⟩
  · rw [hlines]
    exact ⟨_, rfl⟩

theorem ends_list (verbose : Bool) :
    Ends environment files .list (withDirectory verbose environment files listReport).result := by
  refine ends_withDirectory verbose (fun cause => Iff.rfl)
    (fun error hload => ⟨by simp [Succeeds, hload], by simp [Complains, hload]⟩)
    fun settings showNotes hload => ?_
  obtain ⟨text, htext⟩ := exists_result_listReport hload showNotes
  rw [htext]
  exact ends_printed (by simp [Succeeds, hload]) (by simp [Complains, hload])
    (by simp [escapes_list_iff, hload]) text

/-- A password that cannot be found is all that can be missing. -/
theorem fillPassword_cases (environment : Environment) (connection : NamedConnection)
    (account : Account) :
    (∃ filled, Directory.fillPassword environment connection account = .ok filled) ∨
      ∃ names, Directory.fillPassword environment connection account =
        .error (.passwordNotFound connection.id names) := by
  unfold Directory.fillPassword
  split
  · rename_i login _ _
    cases hfind : Password.find? environment connection login with
    | some password => exact .inl ⟨_, rfl⟩
    | none => exact .inr ⟨_, rfl⟩
  · exact .inl ⟨account, rfl⟩

/-- What is loaded can be shown, unless it is not there or has no password. -/
theorem ofLookupError_of_load {settings : Settings}
    (h : Settings.load environment files = .ok settings) {id : String}
    {error : Directory.LookupError}
    (herror : (Directory.ofList settings.connections).account environment id = .error error) :
    Result.ofLookupError error = .error error.message := by
  cases hget : (Directory.ofList settings.connections).get? id with
  | none =>
    have habsent : (Directory.ofList settings.connections).get id =
        .error (.connectionNotFound id) := by rw [Directory.get, hget]
    rw [Directory.account_of_get_error habsent] at herror
    obtain rfl := Except.error.inj herror
    rfl
  | some connection =>
    have hfound : (Directory.ofList settings.connections).get id = .ok connection := by
      rw [Directory.get, hget]
    have hmem := Directory.mem_of_mem_ofList (List.mem_of_find?_eq_some hget)
    -- a loaded string can be read, so that nothing but the password can be missing
    obtain ⟨described, hdecode⟩ := Settings.decode_of_load h hmem
    rw [Directory.account_eq_fillPassword hfound hdecode] at herror
    rcases fillPassword_cases environment connection described with
      ⟨account, hfill⟩ | ⟨names, hfill⟩
    · rw [hfill] at herror
      cases herror
    · rw [hfill] at herror
      obtain rfl := Except.error.inj herror
      rfl

theorem ends_show (id : String) (showPassword verbose : Bool) :
    Ends environment files (.show id showPassword)
      (withDirectory verbose environment files fun showNotes directory =>
        showReport showNotes environment id showPassword directory).result := by
  refine ends_withDirectory verbose (fun cause => escapes_show_iff)
    (fun error hload => ⟨by simp [Succeeds, hload], by simp [Complains, hload]⟩)
    fun settings showNotes hload => ?_
  have hnone : ∀ cause, ¬ Escapes environment files (.show id showPassword) cause := by
    simp [escapes_show_iff, escapes_list_iff, hload]
  unfold showReport
  cases haccount : (Directory.ofList settings.connections).account environment id with
  | ok account =>
    exact ends_printed (by simp [Succeeds, hload, haccount]) (by simp [Complains, hload, haccount])
      hnone _
  | error error =>
    simp only [ofLookupError_of_load hload haccount]
    exact ends_rejected (by simp [Succeeds, hload, haccount])
      (by simp [Complains, hload, haccount]) hnone

/-! ## All commands -/

/-- **What a command comes to.**  Nothing escapes but what `Escapes` lists. -/
theorem ends_report (command : Command) (verbose : Bool) :
    Ends environment files command (command.report environment files verbose).result := by
  cases command with
  | encode fields => exact ends_encode fields verbose
  | decode s showPassword => exact ends_decode s showPassword verbose
  | port protocol ssl => exact ends_port protocol ssl
  | list => exact ends_list verbose
  | «show» id showPassword => exact ends_show id showPassword verbose

/-! ## Runs -/

variable {report : Report}

theorem exit_eq_zero_iff :
    report.outcome.exit = .status 0 ↔ ∃ text, report.result = .printed text := by
  unfold Report.outcome
  cases report.result <;> simp

theorem exit_eq_failure_iff {cause : Failure} :
    report.outcome.exit = .failure cause ↔ report.result = .failed cause := by
  unfold Report.outcome
  cases report.result <;> simp

/-- There is no third way to end but to say what is wrong. -/
theorem Ends.outcome (h : Ends environment files command report.result) :
    Succeeds environment files command ∨ (∃ cause, Escapes environment files command cause) ∨
      Reported environment files command report.outcome := by
  unfold Report.outcome
  cases hresult : report.result with
  | printed text => exact .inl (h.printed_iff.mp ⟨text, hresult⟩)
  | failed cause => exact .inr (.inl ⟨cause, (h.failed_iff cause).mp hresult⟩)
  | rejected complaint =>
    have hcomplains := (h.rejected_iff complaint).mp hresult
    exact .inr (.inr ⟨rfl, rfl, report.notes, complaint, hcomplains, rfl⟩)

end

/-- **How a run ends.**  Without a command it ends with status 0 for an explanation, 1 for no words
at all and 2 for words that are no use.  A command ends with status 0 exactly if it succeeds, and
with a failure that is not reported exactly if `Escapes` lists it.  In any other case it ends with
status 1 and says what is wrong. -/
theorem run_exit (arguments : List String) (environment : Environment) (files : Files) :
    match Command.read unknownPort arguments with
    | .error (.explain _) => (run arguments environment files).exit = .status 0
    | .error .noCommand => (run arguments environment files).exit = .status 1
    | .error (.misuse _ _) => (run arguments environment files).exit = .status 2
    | .ok (command, _) =>
      ((run arguments environment files).exit = .status 0 ↔
        Succeeds environment files command) ∧
      (∀ cause, (run arguments environment files).exit = .failure cause ↔
        Escapes environment files command cause) ∧
      (Succeeds environment files command ∨
        (∃ cause, Escapes environment files command cause) ∨
        Reported environment files command (run arguments environment files)) := by
  unfold run
  cases Command.read unknownPort arguments with
  | error refusal => cases refusal <;> rfl
  | ok found =>
    obtain ⟨command, verbose⟩ := found
    have hends : Ends environment files command
        (command.report environment files verbose).result := ends_report command verbose
    exact ⟨exit_eq_zero_iff.trans hends.printed_iff,
      fun cause => exit_eq_failure_iff.trans (hends.failed_iff cause), hends.outcome⟩

/-- A connection string with a port of ones. -/
def longPort (n : Nat) : String := "imap://h:" ++ String.ofList (List.replicate n '1')

theorem toList_longPort (n : Nat) :
    (longPort n).toList =
      'i' :: 'm' :: 'a' :: 'p' :: ':' :: '/' :: '/' :: 'h' :: ':' :: List.replicate n '1' := by
  simp [longPort]

theorem isPlain_longPort (n : Nat) : isPlain (longPort n) = true := by
  rw [isPlain, toList_longPort]
  rfl

/-- Its parts. -/
def longPortReading (n : Nat) : ConnectionString.Reading where
  protocol := ['i', 'm', 'a', 'p']
  tokens := none
  userInfo := none
  host := .plain ['h']
  digits := some (List.replicate n '1')
  path := []
  query := none
  fragment := none

theorem text_longPortReading (n : Nat) : (longPortReading n).text = (longPort n).toList := by
  rw [toList_longPort, ← List.append_nil (List.replicate n '1')]
  rfl

/-- It is well formed, however long its port is. -/
theorem legal_longPortReading (n : Nat) : (longPortReading n).Legal := by
  have hones : ∀ p : Char → Bool, p '1' = true → (List.replicate n '1').all p = true :=
    fun p hp => List.all_eq_true.mpr fun c hc => by rwa [List.eq_of_mem_replicate hc]
  have hat : '@' ∉ List.replicate n '1' := fun hc =>
    absurd (List.eq_of_mem_replicate hc) (by decide)
  exact
    { parts :=
        { scheme_ne_nil := List.cons_ne_nil _ _
          scheme_all := rfl
          authority_all := hones ConnectionString.inAuthority rfl
          path_all := rfl
          path_head := fun c hc => by cases hc
          query_all := fun q hq => by cases hq
          fragment_ok := fun f hf => by cases hf }
      protocol := show '+' ∉ ['i', 'm', 'a', 'p'] by decide
      userInfo := fun info hinfo => by cases hinfo
      endpoint := show '@' ∉ 'h' :: ':' :: List.replicate n '1' by simp [hat]
      host := show ':' ∉ ['h'] ∧ ['h'].head? ≠ some '[' by decide
      digits := fun ds hds => Option.some.inj hds ▸ hones Char.isDigit rfl }

theorem decode_longPort {n : Nat} (h : Text.maxNumeralLength < n) :
    ConnectionString.decode (longPort n) = .error (.portTooLong n) := by
  have hcount : (longPortReading n).digitCount = n := List.length_replicate
  rw [ConnectionString.Reading.decode_of_reading (legal_longPortReading n)
    (text_longPortReading n), hcount, if_pos h]

theorem run_longPort {n : Nat} (h : Text.maxNumeralLength < n) (environment : Environment)
    (files : Files) :
    run ["decode", longPort n] environment files =
      ⟨.failure (.unreadable (.portTooLong n)), "", ""⟩ := by
  have hread : Command.read unknownPort ["decode", longPort n] =
      .ok (.decode (longPort n) false, false) :=
    Command.read_decode (List.forall_mem_nil _) unknownPort (isPlain_longPort n)
  rw [run, hread]
  simp only [Command.report, decodeReport, decode_longPort h]
  rfl

/-- A file with one field, whose value says that it is a number and is none. -/
def badNumber : Files :=
  (FileTree.mk ⟨"/", ["cwd"]⟩
    [(["cwd", "hostauth.yaml"], some "connections: !!int x\n")]).files

/-- A port that is too long and a field that cannot be converted are not reported. -/
theorem run_fails_on_longPort_and_badNumber :
    run ["decode", longPort 4301] [] badNumber =
        ⟨.failure (.unreadable (.portTooLong 4301)), "", ""⟩ ∧
      run ["list"] [] badNumber =
        ⟨.failure (.source (.conversion (.integer (.form 10 "x")))), "", ""⟩ :=
  ⟨run_longPort (by decide) [] badNumber, by decide +kernel⟩

end MailConnection.Console
