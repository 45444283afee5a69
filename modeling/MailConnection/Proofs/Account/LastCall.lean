import MailConnection.Account.Operation

/-!
# The last call decides

An account falls into three parts that calls replace: the target, the authentication and
the domain.  A call for the connection replaces the target, a call for the login replaces
the authentication, and applying a connection string replaces all three.  What is left,
the row identity and the unnamed flags, no call touches.

`FollowsLastCalls` says what this means for a row of calls: every part is as the last call
that replaces it leaves it in an *empty* account, so that neither the account from before
nor any earlier call shows through.

What a call does is said once, by its `Effect`: the parts that it replaces, and by what.
The account does not occur in it.  That a call which succeeds has such an effect
(`run_eq_or_fails`) is the whole argument; for the target it rests on the port being
inferred from the scheme and the mode of the same call.  The induction over the row is done
once, for any part that effects replace as a whole (`part_runAll`).
-/

namespace MailConnection.Account

/-! ## The parts of an account -/

/-- Where a connection leads and how it is secured. -/
structure Target where
  protocol : Option String
  address : Option String
  port : Int
  mode : SecurityMode
deriving DecidableEq, Repr

/-- Who logs in. -/
structure Authentication where
  login : Option String
  password : Option String
  authenticate : Bool
deriving DecidableEq, Repr

/-- The part of an account that calls for the connection replace. -/
def target (account : Account) : Target where
  protocol := account.protocol
  address := account.address
  port := account.port
  mode := account.flags.mode

/-- The part of an account that calls for the login replace. -/
def authentication (account : Account) : Authentication where
  login := account.login
  password := account.password
  authenticate := account.flags.authenticate

/-! ## Effects -/

/-- The parts that a call replaces, with what it puts there. -/
structure Effect where
  target : Option Target
  authentication : Option Authentication
  domain : Option (Option String)
deriving DecidableEq, Repr

namespace Effect

/-- The account with these parts replaced. -/
def applyTo (effect : Effect) (account : Account) : Account :=
  let target := effect.target.getD account.target
  let authentication := effect.authentication.getD account.authentication
  { id := account.id
    protocol := target.protocol
    address := target.address
    port := target.port
    flags := ⟨target.mode, authentication.authenticate, account.flags.unnamed⟩
    login := authentication.login
    password := authentication.password
    domain := effect.domain.getD account.domain }

variable (effect : Effect) (account : Account)

theorem target_applyTo :
    (effect.applyTo account).target = effect.target.getD account.target := rfl

theorem authentication_applyTo :
    (effect.applyTo account).authentication =
      effect.authentication.getD account.authentication := rfl

theorem domain_applyTo :
    (effect.applyTo account).domain = effect.domain.getD account.domain := rfl

/-- The second time an effect finds what it has put there itself. -/
theorem applyTo_applyTo : effect.applyTo (effect.applyTo account) = effect.applyTo account := by
  obtain ⟨target, authentication, domain⟩ := effect
  cases target <;> cases authentication <;> cases domain <;> rfl

/-- An effect on the target and one on the authentication do not meet. -/
theorem applyTo_comm (first second : Effect) (hfirst : first.target = none)
    (hsecond : second.authentication = none) (hdomain : second.domain = none)
    (account : Account) :
    second.applyTo (first.applyTo account) = first.applyTo (second.applyTo account) := by
  obtain ⟨_, authentication, domain⟩ := first
  obtain ⟨target, _, _⟩ := second
  obtain rfl := hfirst
  obtain rfl := hsecond
  obtain rfl := hdomain
  cases target <;> cases authentication <;> rfl

end Effect

namespace Operation

/-! ## The effects of calls -/

/-- Whether an operation is a call, and not the assignment of a field by its name. -/
def isCall : Operation → Bool
  | .assign .. => false
  | _ => true

/-- The effect of storing a login and a password. -/
def loginEffect (login password : Option String) : Effect where
  target := none
  authentication := some ⟨login, password, login.isSome⟩
  domain := none

/-- The target that a call for the connection sets. -/
def connectionTarget (scheme : String) (address : Option String) (port : Int)
    (mode : SecurityMode) : Target where
  protocol := some (Scheme.protocol scheme)
  address := address
  port := resolvePort (Scheme.protocol scheme) mode.ssl port
  mode := mode

/-- The effect of a call, if it succeeds. -/
def effect? : Operation → Option Effect
  | .setUserInfo info => some (loginEffect (splitUserInfo info).1 (splitUserInfo info).2)
  | .setLogin login password => some (loginEffect login password)
  | .setConnection scheme address port flags =>
    match Validation.readOptionalText address, Validation.readInt port with
    | .ok address, .ok port =>
      some ⟨some (connectionTarget scheme address port (chosenMode scheme flags)), none, none⟩
    | _, _ => none
  | .apply s =>
    match ConnectionString.read s with
    | .ok content =>
      some {
        target := some (connectionTarget content.scheme
          (some (String.ofList content.endpoint.host)) content.port (Scheme.mode content.scheme))
        authentication := some ⟨content.login, content.password, content.login.isSome⟩
        domain := some content.domain }
    | .error _ => none
  | .assign .. => none

variable {operation : Operation} {effect : Effect}

/-- **What a call does.**  Either it has an effect, and then it succeeds with every account
and does nothing else, or it fails with every account. -/
theorem run_eq_or_fails (hcall : operation.isCall = true) :
    (∃ effect, operation.effect? = some effect ∧
      ∀ account, operation.run account = (effect.applyTo account, .ok ())) ∨
    (operation.effect? = none ∧ ∀ account, (operation.run account).2 ≠ .ok ()) := by
  cases operation with
  | setUserInfo info => exact .inl ⟨_, rfl, fun account => rfl⟩
  | setLogin login password => exact .inl ⟨_, rfl, fun account => rfl⟩
  | setConnection scheme address port flags =>
    simp only [effect?, run_setConnection]
    cases Validation.readOptionalText address with
    | error fault => exact .inr ⟨rfl, fun account => by simp⟩
    | ok address =>
      cases Validation.readInt port with
      | error fault => exact .inr ⟨rfl, fun account => by simp⟩
      | ok port =>
        -- scheme and mode are set before the port, which is inferred from these two
        exact .inl ⟨_, rfl, fun account => rfl⟩
  | apply s =>
    simp only [effect?, run_apply]
    cases ConnectionString.read s with
    | error error => exact .inr ⟨rfl, fun account => by simp⟩
    | ok content => exact .inl ⟨_, rfl, fun account => rfl⟩
  | assign name value => exact absurd hcall Bool.false_ne_true

/-- A call that succeeds with one account has an effect on all of them. -/
theorem exists_effect (hcall : operation.isCall = true) {account : Account}
    (hok : (operation.run account).2 = .ok ()) :
    ∃ effect, operation.effect? = some effect ∧
      ∀ a, operation.run a = (effect.applyTo a, .ok ()) := by
  rcases run_eq_or_fails hcall with heffect | ⟨_, hfails⟩
  · exact heffect
  · exact absurd hok (hfails account)

/-! ## Which call replaces which part -/

/-- Whether a call replaces the target. -/
def writesTarget : Operation → Bool
  | .setConnection .. => true
  | .apply _ => true
  | _ => false

/-- Whether a call replaces the authentication. -/
def writesAuthentication : Operation → Bool
  | .setUserInfo _ => true
  | .setLogin .. => true
  | .apply _ => true
  | _ => false

/-- Whether a call replaces the domain. -/
def writesDomain : Operation → Bool
  | .apply _ => true
  | _ => false

theorem isSome_of_effect? (h : operation.effect? = some effect) :
    effect.target.isSome = operation.writesTarget ∧
      effect.authentication.isSome = operation.writesAuthentication ∧
      effect.domain.isSome = operation.writesDomain := by
  cases operation with
  | setUserInfo info =>
    obtain rfl := Option.some.inj h
    exact ⟨rfl, rfl, rfl⟩
  | setLogin login password =>
    obtain rfl := Option.some.inj h
    exact ⟨rfl, rfl, rfl⟩
  | setConnection scheme address port flags =>
    simp only [effect?] at h
    split at h
    · obtain rfl := Option.some.inj h
      exact ⟨rfl, rfl, rfl⟩
    · simp at h
  | apply s =>
    simp only [effect?] at h
    split at h
    · obtain rfl := Option.some.inj h
      exact ⟨rfl, rfl, rfl⟩
    · simp at h
  | assign name value => simp [effect?] at h

/-! ## Rows of calls -/

/-- Every call of the row succeeds. -/
def Succeed : List Operation → Account → Prop
  | [], _ => True
  | operation :: rest, account =>
    (operation.run account).2 = .ok () ∧ Succeed rest (operation.run account).1

/-- A part of an account as the last of the calls that write it leaves it in an empty
account, or as it is if no call writes it. -/
def lastWritten {α : Type} (writes : Operation → Bool) (part : Account → α)
    (operations : List Operation) (account : Account) : α :=
  match (operations.filter writes).getLast? with
  | some operation => part (operation.run empty).1
  | none => part account

section Parts

variable {α : Type} {writes : Operation → Bool} {part : Account → α}

theorem lastWritten_cons_of_writes {operation : Operation} (h : writes operation = true)
    (rest : List Operation) {account : Account} (b : Account)
    (hpart : part account = part (operation.run empty).1) :
    lastWritten writes part (operation :: rest) b = lastWritten writes part rest account := by
  unfold lastWritten
  rw [List.filter_cons_of_pos h, List.getLast?_cons]
  cases (rest.filter writes).getLast? with
  | none => exact hpart.symm
  | some last => rfl

theorem lastWritten_cons_of_not_writes {operation : Operation} (h : writes operation = false)
    (rest : List Operation) {account b : Account} (hpart : part account = part b) :
    lastWritten writes part (operation :: rest) b = lastWritten writes part rest account := by
  unfold lastWritten
  rw [List.filter_cons_of_neg (Bool.eq_false_iff.mp h)]
  cases (rest.filter writes).getLast? with
  | none => exact hpart.symm
  | some last => rfl

/-- **The run lemma for one part,** given that effects replace it as a whole. -/
theorem part_runAll (part : Account → α) (select : Effect → Option α)
    (hpart : ∀ effect account,
      part (Effect.applyTo effect account) = (select effect).getD (part account))
    (hwrites : ∀ {operation effect}, effect? operation = some effect →
      (select effect).isSome = writes operation)
    {operations : List Operation} (hcalls : ∀ operation ∈ operations, operation.isCall = true)
    {account : Account} (hsucceed : Succeed operations account) :
    part (runAll operations account) = lastWritten writes part operations account := by
  -- the rest of the row starts from an account in which the part may be written already
  induction operations generalizing account with
  | nil => rfl
  | cons operation rest ih =>
    obtain ⟨hok, hrest⟩ := hsucceed
    obtain ⟨effect, heffect, heq⟩ :=
      exists_effect (hcalls operation List.mem_cons_self) hok
    have hrun (a : Account) : part (operation.run a).1 = (select effect).getD (part a) := by
      rw [heq, hpart]
    have htail : part (runAll (operation :: rest) account) =
        lastWritten writes part rest (operation.run account).1 :=
      ih (fun other hother => hcalls other (List.mem_cons_of_mem operation hother)) hrest
    rw [htail]
    have hselect := hwrites heffect
    cases hwrite : writes operation with
    | true =>
      -- what the call puts there is the same for every account
      obtain ⟨value, hvalue⟩ := Option.isSome_iff_exists.mp (hselect.trans hwrite)
      refine (lastWritten_cons_of_writes hwrite rest account ?_).symm
      rw [hrun, hrun, hvalue, Option.getD_some, Option.getD_some]
    | false =>
      -- and where it puts nothing, the part goes on to the rest as it is
      have hnone : select effect = none := by simpa using hselect.trans hwrite
      refine (lastWritten_cons_of_not_writes hwrite rest ?_).symm
      rw [hrun, hnone, Option.getD_none]

/-- What no effect replaces stays as it was. -/
theorem part_runAll_of_untouched (part : Account → α)
    (hpart : ∀ effect account, part (Effect.applyTo effect account) = part account)
    {operations : List Operation} (hcalls : ∀ operation ∈ operations, operation.isCall = true)
    {account : Account} (hsucceed : Succeed operations account) :
    part (runAll operations account) = part account := by
  have hlast : part (runAll operations account) =
      lastWritten (fun _ => false) part operations account :=
    part_runAll part (fun _ => none) hpart (fun _ => rfl) hcalls hsucceed
  have hnone : operations.filter (fun _ => false) = [] := List.filter_eq_nil_iff.mpr (by simp)
  rw [hlast, lastWritten, hnone, List.getLast?_nil]

end Parts

/-- A call that succeeds in a row succeeds on its own. -/
theorem snd_run_empty_of_succeed {operations : List Operation}
    (hcalls : ∀ operation ∈ operations, operation.isCall = true) {account : Account}
    (hsucceed : Succeed operations account) :
    ∀ operation ∈ operations, (operation.run empty).2 = .ok () := by
  induction operations generalizing account with
  | nil => simp
  | cons first rest ih =>
    obtain ⟨hok, hrest⟩ := hsucceed
    intro operation hmem
    rcases List.mem_cons.mp hmem with rfl | hmem
    · obtain ⟨effect, _, heq⟩ := exists_effect (hcalls operation List.mem_cons_self) hok
      rw [heq]
    · exact ih (fun other hother => hcalls other (List.mem_cons_of_mem first hother)) hrest
        operation hmem

/-- Only a connection string brings a domain, and it brings credentials as well. -/
theorem writesDomain_of_not_writesAuthentication (h : operation.writesAuthentication = false) :
    operation.writesDomain = false := by
  cases operation with
  | apply s => exact absurd h.symm Bool.false_ne_true
  | _ => rfl

theorem runAll_swap {login connection : Operation} (hlogin : login.isCall = true)
    (hconnection : connection.isCall = true) (htarget : login.writesTarget = false)
    (hauthentication : connection.writesAuthentication = false) {account : Account}
    (hlogged : (login.run account).2 = .ok ()) (hconnected : (connection.run account).2 = .ok ()) :
    runAll [login, connection] account = runAll [connection, login] account := by
  obtain ⟨first, hfirst, hrunFirst⟩ := exists_effect hlogin hlogged
  obtain ⟨second, hsecond, hrunSecond⟩ := exists_effect hconnection hconnected
  have hparts := isSome_of_effect? hfirst
  have hparts' := isSome_of_effect? hsecond
  rw [htarget] at hparts
  rw [hauthentication, writesDomain_of_not_writesAuthentication hauthentication] at hparts'
  have hcomm := Effect.applyTo_comm first second (by simpa using hparts.1)
    (by simpa using hparts'.2.1) (by simpa using hparts'.2.2) account
  simpa only [runAll, List.foldl_cons, List.foldl_nil, hrunFirst, hrunSecond] using hcomm

theorem run_run (hcall : operation.isCall = true) {account : Account}
    (hok : (operation.run account).2 = .ok ()) :
    operation.run (operation.run account).1 = operation.run account := by
  obtain ⟨effect, _, heq⟩ := exists_effect hcall hok
  rw [heq account, heq, Effect.applyTo_applyTo]

end Operation

/-! ## All parts together -/

/-- What an account is after a row of calls: each part as the last call that writes it
leaves it in an empty account, or as it was before if no call writes it.  All these calls
succeed on their own, so that it is a finished account that a part comes from. -/
structure FollowsLastCalls (operations : List Operation) (before after : Account) : Prop where
  target : after.target =
    Operation.lastWritten Operation.writesTarget Account.target operations before
  authentication : after.authentication =
    Operation.lastWritten Operation.writesAuthentication Account.authentication operations before
  domain : after.domain =
    Operation.lastWritten Operation.writesDomain Account.domain operations before
  id : after.id = before.id
  unnamed : ∀ i, 4 ≤ i → after.flags.word.testBit i = before.flags.word.testBit i
  alone : ∀ operation ∈ operations, (operation.run empty).2 = .ok ()

theorem followsLastCalls_of_succeed {operations : List Operation}
    (hcalls : ∀ operation ∈ operations, operation.isCall = true) {account : Account}
    (hsucceed : Operation.Succeed operations account) :
    FollowsLastCalls operations account (Operation.runAll operations account) where
  target := Operation.part_runAll Account.target Effect.target Effect.target_applyTo
    (fun h => (Operation.isSome_of_effect? h).1) hcalls hsucceed
  authentication := Operation.part_runAll Account.authentication Effect.authentication
    Effect.authentication_applyTo (fun h => (Operation.isSome_of_effect? h).2.1) hcalls hsucceed
  domain := Operation.part_runAll Account.domain Effect.domain Effect.domain_applyTo
    (fun h => (Operation.isSome_of_effect? h).2.2) hcalls hsucceed
  id := Operation.part_runAll_of_untouched Account.id (fun _ _ => rfl) hcalls hsucceed
  unnamed := by
    intro i hi
    have hunnamed := Operation.part_runAll_of_untouched (fun a => a.flags.unnamed)
      (fun _ _ => rfl) hcalls hsucceed
    obtain ⟨n, rfl⟩ := Nat.exists_eq_add_of_le' hi
    rw [Flags.testBit_word, Flags.testBit_word]
    exact congrArg (Nat.testBit · n) hunnamed
  alone := Operation.snd_run_empty_of_succeed hcalls hsucceed

/-- Applying a connection string and reading it differ in what no call touches. -/
theorem apply_eq_map_decode (account : Account) (s : String) :
    account.apply s = (ConnectionString.decode s).map fun described =>
      { described with
        id := account.id
        flags := { described.flags with unnamed := account.flags.unnamed } } := by
  simp only [ConnectionString.decode, Account.apply]
  cases ConnectionString.read s <;> rfl

/-- **The last call decides,** for every account and every row of calls that succeed.  So two
neighbouring calls, one for the login and one for the connection, may change places, and a
call that is repeated changes nothing; and a connection string makes the same of every
account, apart from the row identity and the unnamed flags. -/
theorem runAll_followsLastCalls (account : Account) :
    (∀ operations : List Operation, (∀ operation ∈ operations, operation.isCall = true) →
      Operation.Succeed operations account →
        FollowsLastCalls operations account (Operation.runAll operations account)) ∧
    (∀ login connection : Operation, login.isCall = true → connection.isCall = true →
      login.writesTarget = false → connection.writesAuthentication = false →
      (login.run account).2 = .ok () → (connection.run account).2 = .ok () →
        Operation.runAll [login, connection] account =
          Operation.runAll [connection, login] account) ∧
    (∀ operation : Operation, operation.isCall = true → (operation.run account).2 = .ok () →
      operation.run (operation.run account).1 = operation.run account) ∧
    ∀ s, account.apply s = (ConnectionString.decode s).map fun described =>
      { described with
        id := account.id
        flags := { described.flags with unnamed := account.flags.unnamed } } := by
  refine ⟨?_, ?_, ?_, apply_eq_map_decode account⟩
  · intro operations hcalls hsucceed
    exact followsLastCalls_of_succeed hcalls hsucceed
  · intro login connection hlogin hconnection htarget hauthentication hlogged hconnected
    exact Operation.runAll_swap hlogin hconnection htarget hauthentication hlogged hconnected
  · intro operation hcall hok
    exact Operation.run_run hcall hok

/-- An account whose bit for authentication is set without a login, with unnamed flags, a
port and a mode that do not go together, and a password that belongs to nobody. -/
def disordered : Account where
  id := some 9
  protocol := some "pop3+old"
  address := some "old"
  port := 993
  flags := ⟨⟨false, true, true⟩, true, 21⟩
  login := none
  password := some "stale"
  domain := some "box"

/-- Calls of every kind, in which the port is to be inferred twice. -/
def interleaved : List Operation :=
  [.apply "imap+ssl+://bob:x@[::1]:7/in", .setUserInfo (some "eve:y"),
    .setConnection "eas" (.text "ex") (.int (-1)) (some (-15)), .setLogin (some "ann") none,
    .setConnection "smtp+tls+" .null (.text " -1 ") none]

theorem runAll_followsLastCalls_interleaved :
    ((∀ operation ∈ interleaved, operation.isCall = true) ∧
      Operation.Succeed interleaved disordered ∧
      FollowsLastCalls interleaved disordered (Operation.runAll interleaved disordered)) ∧
    Operation.runAll [.setUserInfo none, .setConnection "eas" (.text "ex") (.int (-1)) none]
        disordered =
      Operation.runAll [.setConnection "eas" (.text "ex") (.int (-1)) none, .setUserInfo none]
        disordered ∧
    (Operation.apply "imap://h").run ((Operation.apply "imap://h").run disordered).1 =
      (Operation.apply "imap://h").run disordered ∧
    Operation.runAll interleaved disordered =
      { id := some 9
        protocol := some "smtp"
        address := none
        port := 587
        flags := ⟨⟨false, true, false⟩, true, 21⟩
        login := some "ann"
        password := none
        domain := some "in" } := by
  have h := runAll_followsLastCalls disordered
  have hcalls : ∀ operation ∈ interleaved, operation.isCall = true := by
    simp [interleaved, Operation.isCall]
  have hsucceed : Operation.Succeed interleaved disordered := ⟨rfl, rfl, rfl, rfl, rfl, trivial⟩
  exact ⟨⟨hcalls, hsucceed, h.1 interleaved hcalls hsucceed⟩,
    h.2.1 _ _ rfl rfl rfl rfl rfl rfl, h.2.2.1 _ rfl rfl, rfl⟩

end MailConnection.Account
