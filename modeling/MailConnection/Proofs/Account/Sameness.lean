import MailConnection.Proofs.ConnectionString.Encodability

/-!
# Accounts that differ in their row identity

Two accounts are the same settings if they agree on everything but the row identity.  This is
what their records show (`sameSettings_iff_lookup`): nothing that an operation may look at is
left out of a record, and nothing in a record is blurred.

No operation looks at the row identity, and the only one that writes it is the assignment to it
(`exists_run_withId`).  A row of operations therefore takes the same course on accounts that are
the same settings, failures included, and leaves accounts that are the same settings again.  The
main statement, `sameSettings_congruence`, adds that nobody who asks such accounts for anything
else can tell them apart.
-/

namespace MailConnection.Account

/-! ## Records -/

/-- The names in a record, save that of the row identity. -/
def settingNames : List String :=
  ["protocol", "address", "port", "flags", "login", "password", "domain"]

/-- The record of an account without the row identity. -/
def settings (account : Account) : List (Value × Value) :=
  account.toRecord.filter fun entry => !Value.sameKey entry.1 (.text "id")

theorem settings_withId (account : Account) (id : Option Int) :
    { account with id := id }.settings = account.settings := rfl

theorem lookup_toRecord_withId (account : Account) (id : Option Int) {name : String}
    (hname : name ∈ settingNames) :
    Value.lookup name { account with id := id }.toRecord = Value.lookup name account.toRecord := by
  have hne : "id" ≠ name := by
    rintro rfl
    exact absurd hname (by decide)
  simp [toRecord, Value.lookup, Value.sameKey_text, hne]

/-- Which account a record describes is found by looking up its names. -/
theorem ofRecord_congr {entries others : List (Value × Value)}
    (hid : Value.lookup "id" entries = Value.lookup "id" others)
    (hnames : ∀ name ∈ settingNames, Value.lookup name entries = Value.lookup name others) :
    ofRecord entries = ofRecord others := by
  simp only [settingNames, List.forall_mem_cons] at hnames
  simp only [ofRecord, Validation.field, hid, hnames]

section
variable {a b : Account}

theorem sameSettings_iff_eq : a.SameSettings b ↔ b = { a with id := b.id } := by
  constructor
  · intro h
    calc b = { { b with id := none } with id := b.id } := rfl
      _ = { { a with id := none } with id := b.id } := by rw [h]
      _ = { a with id := b.id } := rfl
  · intro h
    rw [h]
    rfl

/-- **Accounts are the same settings exactly if their records agree on all names but that of
the row identity.** -/
theorem sameSettings_iff_lookup :
    a.SameSettings b ↔
      ∀ name ∈ settingNames, Value.lookup name a.toRecord = Value.lookup name b.toRecord := by
  rw [sameSettings_iff_eq]
  constructor
  · intro h name hname
    rw [h, lookup_toRecord_withId a b.id hname]
  · intro h
    -- the record of `a` with the row identity of `b` is that of `b`, which `b` is restored from
    have hrecords : ofRecord { a with id := b.id }.toRecord = ofRecord b.toRecord :=
      ofRecord_congr rfl fun name hname => by rw [lookup_toRecord_withId a b.id hname, h name hname]
    rw [ofRecord_toRecord, ofRecord_toRecord] at hrecords
    exact (Except.ok.inj hrecords).symm

end

/-! ## Runs -/

namespace Operation

/-- What the operations of a row come to, one after the other. -/
def results : List Operation → Account → List (Except OperationError Unit)
  | [], _ => []
  | operation :: rest, account =>
    (operation.run account).2 :: results rest (operation.run account).1

/-- **No operation looks at the row identity**, whether it succeeds, fails, or fails half-way. -/
theorem exists_run_withId (operation : Operation) (account : Account) (id : Option Int) :
    ∃ id', operation.run { account with id := id } =
      ({ (operation.run account).1 with id := id' }, (operation.run account).2) := by
  cases operation with
  | setUserInfo info => exact ⟨id, rfl⟩
  | setLogin login password => exact ⟨id, rfl⟩
  | setConnection scheme address port flags =>
    refine ⟨id, ?_⟩
    rw [run_setConnection, run_setConnection]
    cases Validation.readOptionalText address with
    | error fault => rfl
    | ok address => cases Validation.readInt port <;> rfl
  | apply s =>
    refine ⟨id, ?_⟩
    rw [run_apply, run_apply]
    cases ConnectionString.read s <;> rfl
  | assign name value =>
    obtain ⟨id', hassign⟩ := account.exists_assign_withId id name value
    simp only [run, hassign]
    split
    · exact ⟨id, rfl⟩
    · obtain ⟨changed, _ | error⟩ := account.assign name value <;> exact ⟨id', rfl⟩

end Operation

namespace SameSettings

variable {a b : Account}

/-- One operation. -/
theorem run (h : a.SameSettings b) (operation : Operation) :
    (operation.run a).2 = (operation.run b).2 ∧
      (operation.run a).1.SameSettings (operation.run b).1 := by
  obtain ⟨id', hrun⟩ := operation.exists_run_withId a b.id
  rw [← sameSettings_iff_eq.mp h] at hrun
  rw [hrun]
  exact ⟨rfl, rfl⟩

/-- A row of operations, by induction on the row. -/
theorem runAll (h : a.SameSettings b) (operations : List Operation) :
    Operation.results operations a = Operation.results operations b ∧
      (Operation.runAll operations a).SameSettings (Operation.runAll operations b) := by
  induction operations generalizing a b with
  | nil => exact ⟨rfl, h⟩
  | cons operation rest ih =>
    obtain ⟨hresult, hrun⟩ := h.run operation
    obtain ⟨hresults, hruns⟩ := ih hrun
    refine ⟨?_, hruns⟩
    rw [Operation.results, Operation.results, hresult, hresults]

end SameSettings

/-! ## Questions -/

/-- Accounts that answer alike to all that can be asked of them, save for the row identity: the
connection string or why there is none, also where its port may have no numeral, the
credentials, the kind of connection and the record. -/
structure AnswerAlike (a b : Account) : Prop where
  encode : a.encode = b.encode
  encode? : a.encode? = b.encode?
  write : a.write = b.write
  tryWrite : a.tryWrite = b.tryWrite
  credentials? : a.credentials? = b.credentials?
  isEas : a.isEas = b.isEas
  settings : a.settings = b.settings

theorem answerAlike_withId (account : Account) (id : Option Int) :
    AnswerAlike account { account with id := id } :=
  ⟨rfl, rfl, rfl, rfl, rfl, rfl, (account.settings_withId id).symm⟩

/-- **To be the same settings is a congruence.**  It is what the records say without the row
identity, and accounts that are the same settings stay so under every row of operations: each
operation succeeds on both or fails on both with the same error, and afterwards they answer
alike. -/
theorem sameSettings_congruence (a b : Account) :
    (a.SameSettings b ↔
      ∀ name ∈ settingNames, Value.lookup name a.toRecord = Value.lookup name b.toRecord) ∧
    (a.SameSettings b → ∀ operations : List Operation,
      Operation.results operations a = Operation.results operations b ∧
      (Operation.runAll operations a).SameSettings (Operation.runAll operations b) ∧
      AnswerAlike (Operation.runAll operations a) (Operation.runAll operations b)) := by
  refine ⟨sameSettings_iff_lookup, fun h operations => ?_⟩
  obtain ⟨hresults, hsame⟩ := h.runAll operations
  refine ⟨hresults, hsame, ?_⟩
  rw [sameSettings_iff_eq.mp hsame]
  exact answerAlike_withId _ _

/-- An account with flags that have no name, a blank password and no login. -/
def halfFilled : Account :=
  { empty with id := some 1, flags := ⟨⟨true, false, true⟩, true, 3⟩, password := some "" }

/-- Operations of which all but one fail, the second one half-way. -/
def troubled : List Operation :=
  [.assign "id" (.text "x"), .setConnection "eas+ssl+" (.text "h") (.text "") (some (-6)),
    .setUserInfo (some ":"), .assign "flags" (.int (-1)), .assign "model_extra" .null,
    .apply "imap://h:x"]

theorem sameSettings_congruence_troubled :
    halfFilled.SameSettings { halfFilled with id := none } ∧
    Operation.results troubled halfFilled =
      [.error (.refused ⟨[.field "id"], .notNumeral⟩),
        .error (.refused ⟨[.field "port"], .notNumeral⟩), .ok (),
        .error (.refused ⟨[.field "flags"], .value "flags must not be negative, got -1"⟩),
        .error (.readOnly "model_extra"), .error (.unreadable (.portNotNumber "x"))] ∧
    Operation.results troubled halfFilled =
      Operation.results troubled { halfFilled with id := none } ∧
    AnswerAlike (Operation.runAll troubled halfFilled)
      (Operation.runAll troubled { halfFilled with id := none }) :=
  have hsame : halfFilled.SameSettings { halfFilled with id := none } := rfl
  have hruns := (sameSettings_congruence halfFilled { halfFilled with id := none }).2 hsame troubled
  ⟨hsame, rfl, hruns.1, hruns.2.2⟩

end MailConnection.Account
