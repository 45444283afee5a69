import MailConnection.Proofs.ConnectionString.Writing

/-!
# What comes back from a connection string

Not everything about an account survives being written.  Its connection string has
no place for the row identity and the unnamed flags, leaves out a negative port, knows
four of the eight security modes, and trims the login and the address.
`Account.normal` is what is left, and `decode_eq_normal_of_encode` says that it is what
is read: nothing else is lost, and nothing moves from one field into another.

The one condition besides the length of the port is on texts that no connection string
can hold: a protocol with a plus sign, and an IPv6 zone that is not confined.
-/

namespace MailConnection

/-! ## The normal form -/

namespace Account

/-- The zone of the address, if it is an IPv6 address with one. -/
def zone? (account : Account) : Option (List Char) :=
  account.address.bind fun address =>
    let trimmed := Text.trim address.toList
    if ':' ∈ trimmed then Host.zone? (Host.unbracket trimmed) else none

/-- The account as it comes back from its connection string. -/
def normal (account : Account) : Account where
  id := none
  protocol := account.protocol
  address := account.address.map fun address =>
    String.ofList (Host.bare (Text.trim address.toList))
  port :=
    if 0 ≤ account.port then account.port
    else
      ConnectionString.inferredPort (account.protocol.getD "")
        (Scheme.normalMode account.flags.mode).ssl
  flags := ⟨Scheme.normalMode account.flags.mode, account.flags.authenticate, 0⟩
  login :=
    if account.flags.authenticate then some (Text.trimString (account.login.getD "")) else none
  password := if account.flags.authenticate then some (account.password.getD "") else none
  domain := account.domain

/-- Writing an account does not change what it logs in with. -/
theorem credentials?_normal (account : Account) :
    account.normal.credentials? = account.credentials? := by
  simp only [credentials?, normal]
  by_cases hauthenticate : account.flags.authenticate = true
  · simp [hauthenticate, Text.trimString, Text.trim_trim]
  · simp [hauthenticate]

end Account

namespace ConnectionString

variable {account : Account} {protocol address : String} {form : Host.Form}

theorem zone?_eq (haddress : account.address = some address)
    (hform : Host.classify (Text.trim address.toList) = .ok form) :
    account.zone? = Host.zone? form.text := by
  simp only [Account.zone?, haddress, Option.bind_some]
  rcases Host.classify_eq_ok hform with ⟨rfl, hname⟩ | ⟨rfl, hcolon, _⟩
  · have hpercent : '%' ∉ Text.trim address.toList := Text.not_mem_of_class hname rfl
    rw [if_neg (Text.not_mem_of_class hname rfl)]
    exact (Text.after?_of_not_mem hpercent).symm
  · rw [if_pos hcolon]
    rfl

/-- The parts of an account describe its normal form. -/
theorem account_reading (hprotocol : account.protocol = some protocol)
    (hplus : '+' ∉ protocol.toList) (haddress : account.address = some address)
    (hform : Host.classify (Text.trim address.toList) = .ok form) :
    (account.reading protocol form).account = account.normal := by
  have hhost : (account.reading protocol form).host.address =
      Host.bare (Text.trim address.toList) := by
    rw [← Host.text_eq_bare hform]
    exact HostText.address_ofForm form
  have hname : String.ofList (account.reading protocol form).protocol = protocol :=
    String.ofList_toList
  rw [Reading.account, hname, hhost, port_reading hplus, mode_reading hplus, login_reading,
    password_reading, domain_reading]
  simp only [Account.normal, hprotocol, haddress, Option.map_some, Option.getD_some,
    Account.credentials?]
  cases account.flags.authenticate <;> rfl

/-- An account with a confined zone is written as a legal text that says what the account
is in normal form. -/
theorem exists_reading_of_encode {t : String} (hencode : account.encode = .ok t)
    (hprotocol : ∀ protocol, account.protocol = some protocol → '+' ∉ protocol.toList)
    (hzone : ∀ zone, account.zone? = some zone → Host.ConfinedZone zone)
    (hport : account.port < Text.numeralBound Text.maxNumeralLength) :
    ∃ r : Reading, r.Legal ∧ r.text = t.toList ∧ r.digitCount ≤ Text.maxNumeralLength ∧
      r.account = account.normal := by
  obtain ⟨protocol, address, form, hp, ha, hscheme, hform, htext⟩ := encode_eq_ok hencode
  rw [zone?_eq ha hform] at hzone
  have hplus := hprotocol protocol hp
  exact ⟨account.reading protocol form, legal_reading hplus hscheme hform hzone, htext,
    digitCount_reading_le hport, account_reading hp hplus ha hform⟩

/-! ## Reading what was written -/

/-- **What was written is read back in normal form.** -/
theorem decode_eq_normal_of_encode {t : String} (hencode : account.encode = .ok t)
    (hprotocol : ∀ protocol, account.protocol = some protocol → '+' ∉ protocol.toList)
    (hzone : ∀ zone, account.zone? = some zone → Host.ConfinedZone zone)
    (hport : account.port < Text.numeralBound Text.maxNumeralLength) :
    decode t = .ok account.normal := by
  obtain ⟨r, hlegal, htext, hlength, haccount⟩ :=
    exists_reading_of_encode hencode hprotocol hzone hport
  rw [Reading.decode_eq_account hlegal htext hlength, haccount]

/-- An account in which everything that can change does. -/
def unsettled : Account where
  id := some 7
  protocol := some "imap"
  address := some " [fe80::1%eth0] "
  port := -5
  flags := ⟨⟨true, false, true⟩, true, 3⟩
  login := some " al:ice@home "
  password := none
  domain := some "My Box?"

theorem decode_eq_normal_unsettled :
    (unsettled.encode =
        .ok "imap+ssl+trustallcerts://al%3Aice%40home:@[fe80::1%25eth0]/My%20Box%3F" ∧
      (∀ protocol, unsettled.protocol = some protocol → '+' ∉ protocol.toList) ∧
      (∀ zone, unsettled.zone? = some zone → Host.ConfinedZone zone) ∧
      unsettled.port < Text.numeralBound Text.maxNumeralLength) ∧
    decode "imap+ssl+trustallcerts://al%3Aice%40home:@[fe80::1%25eth0]/My%20Box%3F" =
      .ok unsettled.normal := by
  have hencode : unsettled.encode =
      .ok "imap+ssl+trustallcerts://al%3Aice%40home:@[fe80::1%25eth0]/My%20Box%3F" := rfl
  have hprotocol : ∀ protocol, unsettled.protocol = some protocol → '+' ∉ protocol.toList := by
    rintro protocol ⟨⟩
    decide
  have hzone : ∀ zone, unsettled.zone? = some zone → Host.ConfinedZone zone := by
    rintro zone ⟨⟩
    decide
  have hport : unsettled.port < Text.numeralBound Text.maxNumeralLength :=
    Int.lt_of_lt_of_le (by decide) (Int.natCast_nonneg _)
  exact ⟨⟨hencode, hprotocol, hzone, hport⟩,
    decode_eq_normal_of_encode hencode hprotocol hzone hport⟩

end ConnectionString

end MailConnection
