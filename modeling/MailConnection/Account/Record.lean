import MailConnection.Account
import MailConnection.Validation

/-!
# Accounts as records

An account is stored as a flat record of eight fields and restored from one.
Restoring checks every field and reports all that are refused, in the order of
the fields; fields that are left out stay empty and others are passed over.

`assign` checks and stores a single field.  The main statement is
`ofRecord_toRecord`: an account is restored from its own record.
-/

namespace MailConnection.Account

/-! ## Fields -/

/-- Check a flag word, which may not be negative. -/
def readFlags (value : Value) : Except Fault Flags := do
  let n ← Validation.readInt value
  match n with
  | .ofNat word => .ok (Flags.ofWord word)
  | .negSucc _ => .error (.value ("flags must not be negative, got " ++ toString n))

/-- A value for an optional text. -/
def textValue : Option String → Value
  | none => .null
  | some s => .text s

/-- A value for an optional number. -/
def intValue : Option Int → Value
  | none => .null
  | some n => .int n

/-! ## Storing and restoring -/

/-- The fields of an account with their names. -/
def toRecord (account : Account) : List (Value × Value) :=
  [(.text "id", intValue account.id),
    (.text "protocol", textValue account.protocol),
    (.text "address", textValue account.address),
    (.text "port", .int account.port),
    (.text "flags", .int account.flags.word),
    (.text "login", textValue account.login),
    (.text "password", textValue account.password),
    (.text "domain", textValue account.domain)]

/-- The account that a record describes, or the errors of all refused fields. -/
def ofRecord (entries : List (Value × Value)) : Except (List FieldError) Account :=
  let id := Validation.field entries "id" none Validation.readOptionalInt
  let protocol := Validation.field entries "protocol" none Validation.readOptionalText
  let address := Validation.field entries "address" none Validation.readOptionalText
  let port := Validation.field entries "port" unknownPort Validation.readInt
  let flags := Validation.field entries "flags" Flags.none readFlags
  let login := Validation.field entries "login" none Validation.readOptionalText
  let password := Validation.field entries "password" none Validation.readOptionalText
  let domain := Validation.field entries "domain" none Validation.readOptionalText
  match id, protocol, address, port, flags, login, password, domain with
  | .ok id, .ok protocol, .ok address, .ok port, .ok flags, .ok login, .ok password,
    .ok domain => .ok ⟨id, protocol, address, port, flags, login, password, domain⟩
  | _, _, _, _, _, _, _, _ =>
    .error (Validation.errorOf id ++ Validation.errorOf protocol ++ Validation.errorOf address ++
      Validation.errorOf port ++ Validation.errorOf flags ++ Validation.errorOf login ++
      Validation.errorOf password ++ Validation.errorOf domain)

/-- **An account is restored from its own record.** -/
theorem ofRecord_toRecord (account : Account) : ofRecord account.toRecord = .ok account := by
  obtain ⟨id, protocol, address, port, flags, login, password, domain⟩ := account
  have htext : ∀ s, Validation.readOptionalText (textValue s) = .ok s := by
    rintro (_ | s) <;> rfl
  have hid : Validation.readOptionalInt (intValue id) = .ok id := by
    rcases id with _ | n <;> rfl
  have hflags : readFlags (.int flags.word) = .ok flags := by
    have : readFlags (.int flags.word) = .ok (Flags.ofWord flags.word) := rfl
    rw [this, Flags.ofWord_word]
  simp [ofRecord, toRecord, Validation.field, Value.lookup, Value.sameKey_text, hid, htext,
    hflags, Validation.readInt]

/-! ## Single fields -/

/-- Check a value and store it with a setter. -/
private def store {α : Type} (account : Account) (name : String) (result : Except Fault α)
    (set : α → Account) : Account × Option FieldError :=
  match result with
  | .ok a => (set a, none)
  | .error fault => (account, some ⟨[.field name], fault⟩)

/-- Check a value and store it in a field.  A refused value changes nothing.  Names
that start with a low line are private: storing there is allowed and does not show. -/
def assign (account : Account) (name : String) (value : Value) : Account × Option FieldError :=
  match name with
  | "id" => store account name (Validation.readOptionalInt value) fun v => { account with id := v }
  | "protocol" =>
    store account name (Validation.readOptionalText value) fun v => { account with protocol := v }
  | "address" =>
    store account name (Validation.readOptionalText value) fun v => { account with address := v }
  | "port" => store account name (Validation.readInt value) fun v => { account with port := v }
  | "flags" => store account name (readFlags value) fun v => { account with flags := v }
  | "login" =>
    store account name (Validation.readOptionalText value) fun v => { account with login := v }
  | "password" =>
    store account name (Validation.readOptionalText value) fun v => { account with password := v }
  | "domain" =>
    store account name (Validation.readOptionalText value) fun v => { account with domain := v }
  | _ =>
    if name.toList.head? = some '_' then (account, none)
    else (account, some ⟨[.field name], .unknownAttribute name⟩)

/-- Set protocol, security mode, address and port from values that have not been
checked.  The steps are taken in this order until a value is refused; what was done
before stays done. -/
def connect (account : Account) (scheme : String) (address port : Value)
    (mode : SecurityMode) : Account × Option FieldError :=
  let named := account.setScheme scheme mode
  match named.assign "address" address with
  | (located, some error) => (located, some error)
  | (located, none) =>
    match located.assign "port" port with
    | (complete, some error) => (complete, some error)
    | (complete, none) => (complete.setPort complete.port, none)

theorem assign_domain (account : Account) (value : Value) :
    account.assign "domain" value =
      match Validation.readOptionalText value with
      | .ok domain => ({ account with domain := domain }, none)
      | .error fault => (account, some ⟨[.field "domain"], fault⟩) := by
  simp only [assign, store]
  cases Validation.readOptionalText value <;> rfl

/-- A field that is a text refuses what is no text, and nothing else. -/
theorem snd_assign_text (account : Account) {name : String}
    (hname : name ∈ ["protocol", "address", "login", "password", "domain"]) (value : Value) :
    (account.assign name value).2 =
      match Validation.readOptionalText value with
      | .ok _ => none
      | .error fault => some ⟨[.field name], fault⟩ := by
  simp only [List.mem_cons, List.not_mem_nil, or_false] at hname
  rcases hname with rfl | rfl | rfl | rfl | rfl <;>
    (simp only [assign, store]; cases Validation.readOptionalText value <;> rfl)

/-- No assignment but the one of the flags touches the flags. -/
theorem flags_assign (account : Account) (name : String) (value : Value) :
    (account.assign name value).1.flags =
      if name = "flags" then ((readFlags value).toOption).getD account.flags
      else account.flags := by
  have hstore {α : Type} (field : String) (result : Except Fault α) (set : α → Account)
      (hset : ∀ a, (set a).flags = account.flags) :
      (store account field result set).1.flags = account.flags := by
    cases result with
    | ok a => exact hset a
    | error fault => rfl
  by_cases hname : name = "flags"
  · subst hname
    simp only [assign, store, if_true]
    cases readFlags value <;> rfl
  · rw [if_neg hname]
    unfold assign
    split
    · exact hstore _ _ _ fun _ => rfl
    · exact hstore _ _ _ fun _ => rfl
    · exact hstore _ _ _ fun _ => rfl
    · exact hstore _ _ _ fun _ => rfl
    · exact absurd rfl hname
    · exact hstore _ _ _ fun _ => rfl
    · exact hstore _ _ _ fun _ => rfl
    · exact hstore _ _ _ fun _ => rfl
    · split <;> rfl

/-- A value is judged without the row identity, and no other field depends on it. -/
theorem exists_assign_withId (account : Account) (id : Option Int) (name : String) (value : Value) :
    ∃ id', { account with id := id }.assign name value =
      ({ (account.assign name value).1 with id := id' }, (account.assign name value).2) := by
  have hstore {α : Type} (field : String) (result : Except Fault α) (set : Account → α → Account)
      (hset : ∀ a, ∃ id', set { account with id := id } a = { set account a with id := id' }) :
      ∃ id', store { account with id := id } field result (set { account with id := id }) =
        ({ (store account field result (set account)).1 with id := id' },
          (store account field result (set account)).2) := by
    cases result with
    | ok a =>
      obtain ⟨id', hid'⟩ := hset a
      exact ⟨id', Prod.ext hid' rfl⟩
    | error fault => exact ⟨id, rfl⟩
  unfold assign
  split
  · exact hstore _ _ (fun account v => { account with id := v }) fun v => ⟨v, rfl⟩
  · exact hstore _ _ (fun account v => { account with protocol := v }) fun _ => ⟨id, rfl⟩
  · exact hstore _ _ (fun account v => { account with address := v }) fun _ => ⟨id, rfl⟩
  · exact hstore _ _ (fun account v => { account with port := v }) fun _ => ⟨id, rfl⟩
  · exact hstore _ _ (fun account v => { account with flags := v }) fun _ => ⟨id, rfl⟩
  · exact hstore _ _ (fun account v => { account with login := v }) fun _ => ⟨id, rfl⟩
  · exact hstore _ _ (fun account v => { account with password := v }) fun _ => ⟨id, rfl⟩
  · exact hstore _ _ (fun account v => { account with domain := v }) fun _ => ⟨id, rfl⟩
  · split <;> exact ⟨id, rfl⟩

/-- How far `connect` gets: scheme and mode are always set, the address if it is a text, and
everything if the port is a number as well. -/
theorem connect_eq (account : Account) (scheme : String) (address port : Value)
    (mode : SecurityMode) :
    account.connect scheme address port mode =
      match Validation.readOptionalText address, Validation.readInt port with
      | .error fault, _ => (account.setScheme scheme mode, some ⟨[.field "address"], fault⟩)
      | .ok address, .error fault =>
        ({ account.setScheme scheme mode with address := address },
          some ⟨[.field "port"], fault⟩)
      | .ok address, .ok port => (account.setConnection scheme address port mode, none) := by
  simp only [connect, assign, store]
  cases Validation.readOptionalText address with
  | error fault => rfl
  | ok address => cases Validation.readInt port <;> rfl

end MailConnection.Account
