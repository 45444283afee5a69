import MailConnection.Proofs.ConnectionString.NormalForm

/-!
# Accounts that were read

An account that was read from a connection string is not any account: it has no row
identity and no unnamed flags, never both SSL and TLS, a port that can be written, a
password only beside a login, and the bit `authenticate` follows the login.
`Account.Decoded` collects these facts and `decoded_of_decode` proves them.

For such an account the normal form is close to the account itself, and
`decode_encode_of_decode` says how close: trimming apart, what was read and written
is read again as it was, except that trust in all certificates is dropped where neither
SSL nor TLS is asked for, that an IPv6 address loses brackets of its own, and that the
connection string of an account has no place for a login without a password.
-/

namespace MailConnection

/-! ## The security mode of a scheme -/

theorem Scheme.not_ssl_and_tls (scheme : String) :
    ¬ ((mode scheme).ssl = true ∧ (mode scheme).tls = true) := by
  simp only [mode, beq_iff_eq]
  rintro ⟨hssl, htls⟩
  exact absurd (hssl.symm.trans htls) (by decide)

/-- What survives of a mode without both SSL and TLS: all of it, unless trust in all
certificates stands alone. -/
theorem Scheme.normalMode_of_not_both {mode : SecurityMode}
    (h : ¬ (mode.ssl = true ∧ mode.tls = true)) :
    normalMode mode = if mode = ⟨false, false, true⟩ then SecurityMode.none else mode := by
  obtain ⟨ssl, tls, trustAll⟩ := mode
  cases ssl <;> cases tls <;> cases trustAll <;> first | rfl | exact absurd ⟨rfl, rfl⟩ h

/-! ## What was read -/

/-- What holds of an account that was read from a connection string. -/
structure Account.Decoded (account : Account) : Prop where
  id : account.id = none
  protocol : ∀ protocol, account.protocol = some protocol → '+' ∉ protocol.toList
  port_lt : account.port < Text.numeralBound Text.maxNumeralLength
  port_of_neg : account.port < 0 → account.port = unknownPort ∧
    ConnectionString.inferredPort (account.protocol.getD "") account.flags.mode.ssl = unknownPort
  mode : ¬ (account.flags.mode.ssl = true ∧ account.flags.mode.tls = true)
  authenticate : account.flags.authenticate = account.login.isSome
  unnamed : account.flags.unnamed = 0
  password : account.login = none → account.password = none

namespace ConnectionString

theorem inferredPort_lt (protocol : String) (ssl : Bool) :
    inferredPort protocol ssl < 1000 := by
  unfold inferredPort
  split
  · rename_i known hknown
    exact Int.ofNat_lt.mpr (defaultPort?_lt hknown)
  · decide

theorem inferredPort_of_neg {protocol : String} {ssl : Bool}
    (h : inferredPort protocol ssl < 0) : inferredPort protocol ssl = unknownPort := by
  unfold inferredPort at h ⊢
  split
  · rename_i known hknown
    simp only [hknown] at h
    omega
  · rfl

namespace Reading

theorem port_eq (r : Reading) :
    r.port = inferredPort (String.ofList r.protocol) r.mode.ssl ∨
      ∃ ds, r.digits = some ds ∧ r.port = Text.numeralValue ds := by
  unfold port
  cases hdigits : r.digits with
  | none => exact .inl rfl
  | some ds =>
    cases ds with
    | nil => exact .inl rfl
    | cons d rest => exact .inr ⟨d :: rest, rfl, rfl⟩

theorem port_lt {r : Reading} (h : r.Legal) (hlength : r.digitCount ≤ Text.maxNumeralLength) :
    r.port < Text.numeralBound Text.maxNumeralLength := by
  rcases r.port_eq with hinferred | ⟨ds, hds, hvalue⟩
  · rw [hinferred]
    have hthousand : ((1000 : Nat) : Int) < Text.numeralBound Text.maxNumeralLength :=
      Text.lt_numeralBound (k := 4) (by decide) (by decide)
    exact Int.lt_trans (inferredPort_lt _ _) hthousand
  · simp only [digitCount, hds, Option.getD_some] at hlength
    rw [hvalue]
    exact Text.lt_numeralBound (Text.numeralValue_lt (h.digits ds hds)) hlength

theorem port_of_neg {r : Reading} (h : r.port < 0) :
    r.port = unknownPort ∧ inferredPort (String.ofList r.protocol) r.mode.ssl = unknownPort := by
  rcases r.port_eq with hinferred | ⟨ds, _, hvalue⟩
  · have hunknown := inferredPort_of_neg (hinferred ▸ h)
    exact ⟨hinferred.trans hunknown, hunknown⟩
  · omega

end Reading

/-- **What holds of every account that was read.** -/
theorem decoded_of_decode {s : String} {account : Account} (h : decode s = .ok account) :
    account.Decoded := by
  obtain ⟨r, hr, _, hlength, rfl⟩ := exists_reading_of_decode_ok h
  refine ⟨rfl, ?_, Reading.port_lt hr hlength, Reading.port_of_neg, Scheme.not_ssl_and_tls _,
    rfl, rfl, ?_⟩
  · rintro protocol ⟨⟩
    rw [String.toList_ofList]
    exact hr.protocol
  · intro hlogin
    simp only [Reading.account, Reading.login, Reading.password] at hlogin ⊢
    cases hinfo : r.userInfo with
    | none => rfl
    | some info =>
      rw [hinfo] at hlogin
      simp only [ite_eq_left_iff, reduceCtorEq, imp_false, Classical.not_not] at hlogin
      cases hpassword : info.password with
      | none => simp only [hpassword, Option.map_none]
      | some cs => simp [UserInfo.text, hpassword, marked] at hlogin

end ConnectionString

/-! ## Reading again -/

namespace Account

/-- The account with login and address as a connection string shows them, and with trust
in all certificates only beside SSL or TLS. -/
def settled (account : Account) : Account :=
  { account with
    address := account.address.map fun address =>
      String.ofList (Host.bare (Text.trim address.toList))
    flags :=
      { account.flags with
        mode :=
          if account.flags.mode = ⟨false, false, true⟩ then SecurityMode.none
          else account.flags.mode }
    login := account.login.map Text.trimString }

variable {account : Account}

theorem normal_port_of_decoded (h : account.Decoded) : account.normal.port = account.port := by
  -- the mode that is dropped has no SSL bit, so that the same port is inferred
  have hssl : (Scheme.normalMode account.flags.mode).ssl = account.flags.mode.ssl := by
    rw [Scheme.normalMode_of_not_both h.mode]
    split
    · rename_i hmode
      rw [hmode]
      rfl
    · rfl
  simp only [normal, hssl]
  by_cases hport : 0 ≤ account.port
  · rw [if_pos hport]
  · obtain ⟨hunknown, hinferred⟩ := h.port_of_neg (Int.not_le.mp hport)
    rw [if_neg hport, hinferred, hunknown]

/-- What was read is in normal form up to what `settled` changes, and up to the password
that a login is written with. -/
theorem normal_of_decoded (h : account.Decoded) :
    account.normal =
      { account.settled with
        password := if account.login.isSome then some (account.password.getD "") else none } := by
  have hport := normal_port_of_decoded h
  have hmode := Scheme.normalMode_of_not_both h.mode
  obtain ⟨id, protocol, address, port, ⟨mode, authenticate, unnamed⟩, login, password, domain⟩ :=
    account
  obtain rfl : id = none := h.id
  obtain rfl : authenticate = login.isSome := h.authenticate
  obtain rfl : unnamed = 0 := h.unnamed
  simp only [normal, settled, Account.mk.injEq, true_and, and_true] at hport hmode ⊢
  refine ⟨hport, by rw [hmode], ?_⟩
  cases login <;> rfl

end Account

namespace ConnectionString

/-- **What was read and written is read again as it was**, trimmed and without trust in all
certificates where it stood alone.  A login without a password is the one case in which the
password may come back another, and then it is still a blank one that is meant. -/
theorem decode_encode_of_decode {s t : String} {account : Account}
    (hdecode : decode s = .ok account) (hencode : account.encode = .ok t)
    (hzone : account.zone? = none) :
    ∃ again, decode t = .ok again ∧
      { again with password := account.password } = account.settled ∧
      (account.login = none ∨ account.password.isSome → again.password = account.password) ∧
      again.credentials? = account.credentials? := by
  have hdecoded := decoded_of_decode hdecode
  obtain ⟨r, hlegal, htext, hlength, haccount⟩ :=
    exists_reading_of_encode hencode hdecoded.protocol (by simp [hzone]) hdecoded.port_lt
  have hnormal := Account.normal_of_decoded hdecoded
  refine ⟨account.normal, ?_, by rw [hnormal]; rfl, ?_, Account.credentials?_normal account⟩
  · rw [Reading.decode_eq_account hlegal htext hlength, haccount]
  · rw [hnormal]
    rintro (hlogin | hpassword)
    · simp only [hlogin, hdecoded.password hlogin]
      rfl
    · obtain ⟨password, hsome⟩ := Option.isSome_iff_exists.mp hpassword
      have hlogin : account.login.isSome = true := by
        cases hl : account.login with
        | some login => rfl
        | none => simp [hdecoded.password hl] at hsome
      simp only [hsome, hlogin, if_true, Option.getD_some]

/-- An account read from a string that nobody has written with `encode`. -/
def foreign : Account where
  id := none
  protocol := some "imap"
  address := some "[::1]"
  port := 143
  flags := ⟨⟨false, false, true⟩, true, 0⟩
  login := some " alice "
  password := none
  domain := some ""

theorem decode_encode_foreign :
    (decode "imap+none+trustallcerts://%20alice%20@[%5B::1%5D]:/?x" = .ok foreign ∧
      foreign.encode = .ok "imap://alice:@[::1]:143/" ∧ foreign.zone? = none) ∧
    ∃ again, decode "imap://alice:@[::1]:143/" = .ok again ∧
      { again with password := foreign.password } = foreign.settled ∧
      (foreign.login = none ∨ foreign.password.isSome → again.password = foreign.password) ∧
      again.credentials? = foreign.credentials? := by
  have hdecode : decode "imap+none+trustallcerts://%20alice%20@[%5B::1%5D]:/?x" = .ok foreign := rfl
  have hencode : foreign.encode = .ok "imap://alice:@[::1]:143/" := rfl
  have hzone : foreign.zone? = none := rfl
  exact ⟨⟨hdecode, hencode, hzone⟩, decode_encode_of_decode hdecode hencode hzone⟩

/-- What `settled` changes does change: trust in all certificates alone, and brackets inside
brackets.  A login without a password gets one. -/
theorem decode_encode_changes :
    (∃ account again, decode "imap++trustallcerts://h" = .ok account ∧
      account.encode = .ok "imap://h:143" ∧ account.zone? = none ∧
      decode "imap://h:143" = .ok again ∧ again.flags ≠ account.flags) ∧
    (∃ account again, decode "imap://[%5B::1%5D]" = .ok account ∧
      account.encode = .ok "imap://[::1]:143" ∧ account.zone? = none ∧
      decode "imap://[::1]:143" = .ok again ∧
      again.address ≠ account.address.map Text.trimString) ∧
    (∃ account again, decode "imap://alice@h" = .ok account ∧
      account.encode = .ok "imap://alice:@h:143" ∧ account.zone? = none ∧
      decode "imap://alice:@h:143" = .ok again ∧ again.password ≠ account.password) := by
  refine ⟨⟨_, _, rfl, rfl, rfl, rfl, by decide⟩, ⟨_, _, rfl, rfl, rfl, rfl, by decide⟩,
    ⟨_, _, rfl, rfl, rfl, rfl, by decide⟩⟩

end ConnectionString

end MailConnection
