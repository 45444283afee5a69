import MailConnection.Account.Operation
import Mathlib.Data.Int.Bitwise

/-!
# Accounts in storage

Whatever has happened to an account, its record restores it.  A history is a row of
events: the account is built from named values or read from a connection string, or an
operation changes it; each of them may fail, and an operation that fails may have changed
a part of the account before.

The one field that could be in the way is the flag word, which is a number in the record
and may not be negative there.  `Event.word` says what an event makes of the word in the
arithmetic of two's complement, where the flags that a call is given may be any whole
number.  `Event.word_run` shows that this is the word of the account after the event, and
`runAll_stored` that it is never negative, however many calls with negative flags have come
and failed.
-/

namespace MailConnection

/-! ## Arithmetic of flag words -/

/-- The bits that the user sets, as a word: SSL, TLS and trust in all certificates. -/
def userMask : Int := 11

/-- The bit for authentication, as a word. -/
def authenticateMask : Int := 4

/-- A word with the user's bits replaced by those of a whole number. -/
def withUserBits (word given : Int) : Int :=
  Int.lor (Int.land word (Int.lnot userMask)) (Int.land given userMask)

/-- A word with the bit for authentication set or cleared. -/
def withAuthentication (word : Int) (authenticate : Bool) : Int :=
  if authenticate then Int.lor word authenticateMask
  else Int.land word (Int.lnot authenticateMask)

/-- The user's bits of a whole number, negative or not. -/
theorem SecurityMode.ofInt_eq (n : Int) :
    ofInt n = ⟨n.testBit 0, n.testBit 1, n.testBit 3⟩ := by
  cases n with
  | ofNat n =>
    simp only [ofInt, Int.testBit, Nat.testBit_eq_decide_div_mod_eq, mk.injEq, decide_eq_decide,
      Int.ofNat_eq_natCast]
    refine ⟨?_, ?_, ?_⟩ <;> omega
  | negSucc n =>
    -- the bits of a negative number are the complement of those of `n`
    simp only [ofInt, Int.testBit, Nat.testBit_eq_decide_div_mod_eq, mk.injEq, ← decide_not,
      decide_eq_decide, Int.negSucc_eq]
    refine ⟨?_, ?_, ?_⟩ <;> omega

/-- The bits above the named ones are in no mask. -/
theorem testBit_mask_high {mask : Nat} (h : mask < 2 ^ 4) (n : Nat) :
    mask.testBit (n + 4) = false :=
  Nat.testBit_lt_two_pow (Nat.lt_of_lt_of_le h (Nat.pow_le_pow_right (by decide) (by omega)))

theorem testBit_userMask (i : Nat) :
    userMask.testBit i = match i with
      | 0 | 1 | 3 => true
      | _ => false := by
  match i with
  | 0 | 1 | 2 | 3 => rfl
  | n + 4 => exact testBit_mask_high (by decide) n

theorem testBit_authenticateMask (i : Nat) :
    authenticateMask.testBit i = match i with
      | 2 => true
      | _ => false := by
  match i with
  | 0 | 1 | 2 | 3 => rfl
  | n + 4 => exact testBit_mask_high (by decide) n

/-- Two words are the same if they are a natural number and agree in all bits. -/
theorem natCast_eq_of_testBit {m : Nat} {n : Int} (hn : 0 ≤ n)
    (h : ∀ i, m.testBit i = n.testBit i) : (m : Int) = n := by
  obtain ⟨k, rfl⟩ := Int.eq_ofNat_of_zero_le hn
  exact congrArg _ (Nat.eq_of_testBit_eq h)

/-- No bit above the named ones is in a mask, so that a natural number stays one. -/
theorem withUserBits_nonneg (word : Nat) (given : Int) : 0 ≤ withUserBits word given := by
  cases given with
  | ofNat n => exact Int.natCast_nonneg _
  | negSucc n => exact Int.natCast_nonneg _

theorem withAuthentication_nonneg (word : Nat) (authenticate : Bool) :
    0 ≤ withAuthentication word authenticate := by
  cases authenticate with
  | true => exact Int.natCast_nonneg _
  | false => exact Int.natCast_nonneg _

namespace Flags

variable (flags : Flags)

theorem word_withMode (n : Int) :
    ({ flags with mode := SecurityMode.ofInt n }.word : Int) = withUserBits flags.word n := by
  refine natCast_eq_of_testBit (withUserBits_nonneg _ _) fun i => ?_
  have hword (j : Nat) : (flags.word : Int).testBit j = flags.word.testBit j := rfl
  rw [withUserBits, Int.testBit_lor, Int.testBit_land, Int.testBit_land, Int.testBit_lnot, hword,
    testBit_word, testBit_word, SecurityMode.ofInt_eq, testBit_userMask]
  -- the named bits one by one, and those above them together
  match i with
  | 0 | 1 | 2 | 3 => simp
  | n + 4 => simp

theorem word_withAuthenticate (authenticate : Bool) :
    ({ flags with authenticate := authenticate }.word : Int) =
      withAuthentication flags.word authenticate := by
  refine natCast_eq_of_testBit (withAuthentication_nonneg _ _) fun i => ?_
  have hword (j : Nat) : (flags.word : Int).testBit j = flags.word.testBit j := rfl
  cases authenticate with
  | true =>
    simp only [withAuthentication, if_true]
    rw [Int.testBit_lor, hword, testBit_word, testBit_word, testBit_authenticateMask]
    match i with
    | 0 | 1 | 2 | 3 => simp
    | n + 4 => simp
  | false =>
    simp only [withAuthentication, Bool.false_eq_true, if_false]
    rw [Int.testBit_land, Int.testBit_lnot, hword, testBit_word, testBit_word,
      testBit_authenticateMask]
    match i with
    | 0 | 1 | 2 | 3 => simp
    | n + 4 => simp

end Flags

/-! ## Histories -/

namespace Account

/-- Something that happens to an account: another one is built from named values, be they
given one by one or stored as a record, or read from a connection string, or an operation
is performed on it. -/
inductive Event where
  | build (entries : List (Value × Value))
  | read (s : String)
  | perform (operation : Operation)
deriving Repr

/-- The account after an event.  An account that cannot be built or read does not take the
place of the one that is there. -/
def Event.run (event : Event) (account : Account) : Account :=
  match event with
  | .build entries =>
    match ofRecord entries with
    | .ok built => built
    | .error _ => account
  | .read s =>
    match ConnectionString.decode s with
    | .ok described => described
    | .error _ => account
  | .perform operation => (operation.run account).1

/-- The account after a history that starts with an empty one. -/
def Event.runAll (events : List Event) : Account :=
  events.foldl (fun account event => event.run account) empty

/-! ## The flag word after a history -/

/-- The flag word of what a connection string says, given the word from before. -/
def contentWord (content : ConnectionString.Content) (word : Int) : Int :=
  withAuthentication (withUserBits word (Scheme.mode content.scheme).word) content.login.isSome

/-- The flag word after a value was given for it. -/
def givenWord (value : Value) (word : Int) : Int :=
  match Validation.readInt value with
  | .ok given => if given < 0 then word else given
  | .error _ => word

/-- The flag word after an operation.  A call for the connection sets it even when the
address or the port is refused. -/
def Operation.word : Operation → Int → Int
  | .setUserInfo info, word => withAuthentication word (splitUserInfo info).1.isSome
  | .setLogin login _, word => withAuthentication word login.isSome
  | .setConnection scheme _ _ flags, word =>
    withUserBits word (flags.getD (Scheme.mode scheme).word)
  | .apply s, word =>
    match ConnectionString.read s with
    | .ok content => contentWord content word
    | .error _ => word
  | .assign name value, word => if name = "flags" then givenWord value word else word

/-- The flag word after an event. -/
def Event.word : Event → Int → Int
  | .build entries, word =>
    match ofRecord entries with
    | .ok _ => ((Value.lookup "flags" entries).map fun value => givenWord value 0).getD 0
    | .error _ => word
  | .read s, word =>
    match ConnectionString.read s with
    | .ok content => contentWord content 0
    | .error _ => word
  | .perform operation, word => operation.word word

/-- The flag word after a history. -/
def Event.wordAll (events : List Event) : Int :=
  events.foldl (fun word event => event.word word) 0

section
variable (account : Account)

theorem word_setScheme (scheme : String) (n : Int) :
    ((account.setScheme scheme (SecurityMode.ofInt n)).flags.word : Int) =
      withUserBits account.flags.word n :=
  account.flags.word_withMode n

theorem word_setLogin (login password : Option String) :
    ((account.setLogin login password).flags.word : Int) =
      withAuthentication account.flags.word login.isSome :=
  account.flags.word_withAuthenticate login.isSome

theorem word_applyTo (content : ConnectionString.Content) :
    ((content.applyTo account).flags.word : Int) = contentWord content account.flags.word := by
  let named := account.setScheme content.scheme (Scheme.mode content.scheme)
  have hnamed : (named.flags.word : Int) =
      withUserBits account.flags.word (Scheme.mode content.scheme).word := by
    have hmode := word_setScheme account content.scheme (Scheme.mode content.scheme).word
    rwa [SecurityMode.ofInt_word] at hmode
  calc ((content.applyTo account).flags.word : Int)
      = ((named.setLogin content.login content.password).flags.word : Int) := rfl
    _ = withAuthentication named.flags.word content.login.isSome := word_setLogin named _ _
    _ = contentWord content account.flags.word := by rw [hnamed, contentWord]

theorem chosenMode_eq (scheme : String) (flags : Option Int) :
    chosenMode scheme flags =
      SecurityMode.ofInt (flags.getD (Scheme.mode scheme).word) := by
  cases flags with
  | none => exact (SecurityMode.ofInt_word _).symm
  | some n => rfl

/-- A flag word that is given is refused exactly if it is negative or no number. -/
theorem toOption_readFlags (value : Value) (flags : Flags) :
    ((((readFlags value).toOption).getD flags).word : Int) = givenWord value flags.word := by
  unfold readFlags givenWord
  cases Validation.readInt value with
  | error fault => rfl
  | ok given =>
    cases given with
    | ofNat n => exact congrArg Int.ofNat (Flags.word_ofWord n)
    | negSucc n => exact (if_pos (Int.negSucc_lt_zero n)).symm

end

/-- **What an operation makes of the flag word,** whether it succeeds or not. -/
theorem Operation.word_run (operation : Operation) (account : Account) :
    ((operation.run account).1.flags.word : Int) = operation.word account.flags.word := by
  cases operation with
  | setUserInfo info => exact word_setLogin account _ _
  | setLogin login password => exact word_setLogin account login password
  | setConnection scheme address port flags =>
    -- the mode is set first, and what comes after it does not touch the flags
    have hnamed : ((account.setScheme scheme (chosenMode scheme flags)).flags.word : Int) =
        withUserBits account.flags.word (flags.getD (Scheme.mode scheme).word) := by
      rw [chosenMode_eq, word_setScheme]
    rw [run_setConnection]
    cases Validation.readOptionalText address with
    | error fault => exact hnamed
    | ok address => cases Validation.readInt port <;> exact hnamed
  | apply s =>
    rw [run_apply, word]
    cases ConnectionString.read s with
    | error error => rfl
    | ok content => exact word_applyTo account content
  | assign name value =>
    rw [fst_run_assign, word]
    split
    · -- a name that cannot be written to is not that of the flags
      rename_i hreadOnly
      rw [if_neg]
      rintro rfl
      exact absurd hreadOnly (by decide)
    · rw [flags_assign]
      split
      · exact toOption_readFlags value account.flags
      · rfl

/-- The flags of an account that was built are those that were given, none if no word was
given. -/
theorem word_of_ofRecord {entries : List (Value × Value)} {account : Account}
    (h : ofRecord entries = .ok account) :
    (account.flags.word : Int) =
      ((Value.lookup "flags" entries).map fun value => givenWord value 0).getD 0 := by
  have hflags : Validation.field entries "flags" Flags.none readFlags = .ok account.flags := by
    simp only [ofRecord] at h
    split at h
    · obtain rfl := Except.ok.inj h
      assumption
    · simp at h
  unfold Validation.field at hflags
  cases hlookup : Value.lookup "flags" entries with
  | none =>
    rw [hlookup] at hflags
    rw [← Except.ok.inj hflags]
    rfl
  | some value =>
    simp only [hlookup] at hflags
    have hgiven := toOption_readFlags value Flags.none
    cases hread : readFlags value with
    | error fault => simp [hread] at hflags
    | ok flags =>
      simp only [hread, Except.ok.injEq] at hflags
      rw [hread, hflags] at hgiven
      exact hgiven

theorem Event.word_run (event : Event) (account : Account) :
    ((event.run account).flags.word : Int) = event.word account.flags.word := by
  cases event with
  | build entries =>
    simp only [run, word]
    cases hbuilt : ofRecord entries with
    | error errors => rfl
    | ok built => exact word_of_ofRecord hbuilt
  | read s =>
    simp only [run, word, ConnectionString.decode, Account.apply]
    cases ConnectionString.read s with
    | error error => rfl
    | ok content => exact word_applyTo empty content
  | perform operation => exact operation.word_run account

theorem Event.word_runAll (events : List Event) :
    ((runAll events).flags.word : Int) = wordAll events := by
  -- the row may go on from any account, as long as word and account agree
  have hrun (account : Account) (word : Int) (hword : (account.flags.word : Int) = word) :
      ((events.foldl (fun account event => event.run account) account).flags.word : Int) =
        events.foldl (fun word event => event.word word) word := by
    induction events generalizing account word with
    | nil => exact hword
    | cons event rest ih => exact ih _ _ (by rw [event.word_run, hword])
  exact hrun empty 0 rfl

/-! ## Storing -/

/-- Different accounts have different records: nothing that is absent is stored as
something blank. -/
theorem toRecord_injective {account other : Account} (h : other.toRecord = account.toRecord) :
    other = account := by
  have hother := ofRecord_toRecord other
  rw [h, ofRecord_toRecord] at hother
  exact (Except.ok.inj hother).symm

/-- **Whatever has happened to an account, its record restores it**, with its row identity
and with the same record, and no other account has that record.  The flag word that is
stored is that of the history, computed with whole numbers, and it is not negative. -/
theorem ofRecord_toRecord_runAll (events : List Event) :
    let account := Event.runAll events
    (∃ restored, ofRecord account.toRecord = .ok restored ∧ restored.SameSettings account ∧
      restored.id = account.id ∧ restored.toRecord = account.toRecord) ∧
    (∀ other : Account, other.toRecord = account.toRecord → other = account) ∧
    Value.lookup "flags" account.toRecord = some (.int (Event.wordAll events)) ∧
    0 ≤ Event.wordAll events := by
  intro account
  have hword : (account.flags.word : Int) = Event.wordAll events := Event.word_runAll events
  refine ⟨⟨account, ofRecord_toRecord account, rfl, rfl, rfl⟩, ?_, ?_, ?_⟩
  · intro other hother
    exact toRecord_injective hother
  · rw [← hword]
    rfl
  · rw [← hword]
    exact Int.natCast_nonneg _

/-- A history in which most events fail: a record and an assignment with negative flags, a call
with negative flags and an address that is no text, and connection strings that cannot be
read. -/
def eventful : List Event :=
  [.build [(.text "id", .text " 007 "), (.text "flags", .text "5_3"), (.text "domain", .text "")],
    .build [(.text "flags", .int (-1))], .perform (.assign "flags" (.int (-3))),
    .perform (.setConnection "imap+ssl+" (.int 5) (.int 1) (some (-5))),
    .perform (.setUserInfo (some ":")), .read "imap:/h", .perform (.apply "imap://h:x")]

theorem ofRecord_toRecord_runAll_eventful :
    Event.runAll eventful =
      { id := some 7
        protocol := some "imap"
        address := none
        port := unknownPort
        flags := ⟨⟨true, true, true⟩, true, 3⟩
        login := some ""
        password := some ""
        domain := some "" } ∧
    Event.wordAll eventful = 63 ∧
    ∃ restored, ofRecord (Event.runAll eventful).toRecord = .ok restored ∧
      restored.SameSettings (Event.runAll eventful) ∧
      restored.id = (Event.runAll eventful).id ∧
      restored.toRecord = (Event.runAll eventful).toRecord :=
  ⟨rfl, (Event.word_runAll eventful).symm.trans rfl, (ofRecord_toRecord_runAll eventful).1⟩

end Account

end MailConnection
