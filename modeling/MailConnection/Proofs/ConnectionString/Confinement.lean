import MailConnection.Proofs.ConnectionString.NormalForm

/-!
# Hosts that stay in their place

A host is written unescaped, so its own characters decide whether it ends where it
should.  For host names and IPv4 addresses they do, and so they do for an IPv6 address
up to its zone.  The zone is the one text that reaches a connection string neither
checked nor escaped.

`decode_encode_iff_confinedZone` says that it is also the one thing that can go wrong:
what was written can be read back, with address, credentials and domain as they were,
exactly if the zone is confined.  An account with any other zone becomes unreadable or
turns into an account for another host (`encode_unconfined`).

The way there is to follow the zone through `decode`.  The authority goes on from the
zone to the next character that ends an authority (`spill`), and the endpoint starts
after the last `@` of what that is.  Wherever it starts and wherever the host ends, the
`%` before the zone is found again only if both are outside of the zone.
-/

namespace MailConnection.ConnectionString

open Text.Percent (escape)

/-! ## The authority that is found -/

/-- The authority of a legal text reaches from the slashes to the next character that
ends one. -/
theorem Reading.authority_eq_takeWhile {r : Reading} (h : r.Legal) {scheme rest : List Char}
    (hscheme : scheme.all inScheme = true)
    (htext : r.text = scheme ++ ':' :: '/' :: '/' :: rest) :
    r.authority = rest.takeWhile inAuthority := by
  have hsplit := split?_eq_some_iff.mpr ⟨htext.symm, h.parts⟩
  have hall : ∀ c ∈ scheme, inScheme c = true := List.all_eq_true.mp hscheme
  have hcolon : inScheme ':' = false := rfl
  simp only [split?, List.dropWhile_append_of_pos hall,
    List.dropWhile_cons_of_neg (Bool.eq_false_iff.mp hcolon)] at hsplit
  split at hsplit
  · simp at hsplit
  · obtain ⟨_, _, hparts⟩ := Option.map_eq_some_iff.mp hsplit
    exact (congrArg Parts.authority hparts).symm

/-- What an authority holds from an IPv6 zone on. -/
def spill (zone : List Char) (account : Account) : List Char :=
  (zone ++ ']' :: (writePort account.port ++ writeDomain account.domain)).takeWhile inAuthority

variable {account : Account} {plain zone : List Char}

theorem inAuthority_of_mem_spill {c : Char} (h : c ∈ spill zone account) :
    inAuthority c = true := by
  have hall := List.all_takeWhile (p := inAuthority)
    (l := zone ++ ']' :: (writePort account.port ++ writeDomain account.domain))
  exact List.all_eq_true.mp hall c h

/-- Nothing of the domain is in it. -/
theorem mem_of_mem_spill {c : Char} (h : c ∈ spill zone account) :
    c ∈ zone ∨ c = ']' ∨ c ∈ writePort account.port := by
  -- a domain starts with a slash, and there the authority ends at the latest
  have hstop : (writeDomain account.domain).takeWhile inAuthority = [] := by
    cases account.domain <;> rfl
  have hsub : c ∈ zone ++ ']' :: writePort account.port := by
    have hassoc : zone ++ ']' :: (writePort account.port ++ writeDomain account.domain) =
        (zone ++ ']' :: writePort account.port) ++ writeDomain account.domain := by simp
    rw [spill, hassoc, List.takeWhile_append, hstop, List.append_nil] at h
    split at h
    · exact h
    · exact (List.takeWhile_subset _) h
  simpa using hsub

theorem percent_not_mem_spill (hzone : '%' ∉ zone) : '%' ∉ spill zone account := by
  intro hmem
  rcases mem_of_mem_spill hmem with hin | hbracket | hport
  · exact hzone hin
  · exact absurd hbracket (by decide)
  · exact not_mem_writePort rfl (by decide) _ hport

/-! ## The endpoint that is found -/

/-- The `%` before the zone is the only character of an address that is escaped. -/
theorem escape_zone (hplain : '%' ∉ plain) (hzone : '%' ∉ zone) :
    escape (· != '%') (plain ++ '%' :: zone) = plain ++ '%' :: '2' :: '5' :: zone := by
  have hcons : escape (· != '%') ('%' :: zone) = '%' :: '2' :: '5' :: escape (· != '%') zone := rfl
  rw [Text.Percent.escape_append, hcons, Text.Percent.escape_percent_of_not_mem hplain,
    Text.Percent.escape_percent_of_not_mem hzone]

/-- Credentials end in an `@`, so that an endpoint never starts in them. -/
theorem afterLast_writeCredentials_append (credentials : Option (String × String))
    (rest : List Char) :
    Text.afterLast '@' (writeCredentials credentials ++ rest) = Text.afterLast '@' rest := by
  cases credentials with
  | none => rfl
  | some pair =>
    obtain ⟨login, password⟩ := pair
    have hcut : writeCredentials (some (login, password)) ++ rest =
        (escape loginSafe login.toList ++ ':' :: escape passwordSafe password.toList) ++
          '@' :: rest := by
      simp [writeCredentials]
    rw [hcut, Text.afterLast_append_cons_of_any]

/-- The endpoint of a legal text that was written for an address with a zone. -/
theorem endpoint_eq_afterLast_spill {r : Reading} (h : r.Legal) {protocol : String}
    (hscheme : isScheme (Scheme.encode protocol account.flags.mode).toList = true)
    (hplain : ∀ c ∈ plain, Host.isLiteralChar c = true) (hzone : '%' ∉ zone)
    (htext : r.text = (account.reading protocol (.literal (plain ++ '%' :: zone))).text) :
    r.endpoint =
      Text.afterLast '@' ('[' :: (plain ++ '%' :: '2' :: '5' :: spill zone account)) := by
  have hpercent : '%' ∉ plain := Text.not_mem_of_class hplain rfl
  have hrender : (Host.Form.literal (plain ++ '%' :: zone)).render =
      '[' :: (plain ++ '%' :: '2' :: '5' :: (zone ++ [']'])) := by
    rw [← HostText.text_ofForm, HostText.ofForm, HostText.text, escape_zone hpercent hzone]
    simp
  have hwritten : r.text = (Scheme.encode protocol account.flags.mode).toList ++
      ':' :: '/' :: '/' :: ((writeCredentials account.credentials? ++
        '[' :: (plain ++ ['%', '2', '5'])) ++
          (zone ++ ']' :: (writePort account.port ++ writeDomain account.domain))) := by
    rw [htext, Reading.text, Parts.text]
    simp only [Reading.parts, scheme_reading, authority_reading, hrender]
    simp [Account.reading, marked]
  -- nothing before the zone ends the authority
  have hhead : ∀ c ∈ writeCredentials account.credentials? ++ '[' :: (plain ++ ['%', '2', '5']),
      inAuthority c = true := by
    refine List.all_eq_true.mp (all_inAuthority fun d hd => ?_)
    have hmark : Host.isLiteralChar d = false ∧ d ∉ ['[', '%', '2', '5'] := by
      simp only [List.mem_cons, List.not_mem_nil, or_false] at hd
      rcases hd with rfl | rfl | rfl <;> decide
    have hliteral : d ∉ plain := Text.not_mem_of_class hplain hmark.1
    have hcredentials := not_mem_writeCredentials account.credentials? d hd
    simp_all
  have hauthority := Reading.authority_eq_takeWhile h (all_inScheme hscheme) hwritten
  rw [List.takeWhile_append_of_pos hhead] at hauthority
  -- the credentials go with the `@` after them
  rw [← Reading.afterLast_authority h, hauthority, List.append_assoc,
    afterLast_writeCredentials_append]
  simp [spill]

/-! ## The address that is found -/

theorem HostText.percent_not_mem_address {host : HostText} (h : '%' ∉ host.text) :
    '%' ∉ host.address := by
  cases host with
  | bracketed inside =>
    have hinside : '%' ∉ inside := by
      intro hmem
      exact h (by simp [HostText.text, hmem])
    rwa [HostText.address, Text.Percent.unescape_of_not_mem hinside]
  | plain text => exact h

/-- Where the zone holds an `@`, the endpoint starts after the `%`. -/
theorem percent_not_mem_afterLast (plain : List Char)
    (hspill : '%' ∉ spill zone account) (hmem : '@' ∈ spill zone account) :
    '%' ∉ Text.afterLast '@' ('[' :: (plain ++ '%' :: '2' :: '5' :: spill zone account)) := by
  have hcut := Text.beforeLast_append_afterLast hmem
  have hwhole : '[' :: (plain ++ '%' :: '2' :: '5' :: spill zone account) =
      ('[' :: (plain ++ '%' :: '2' :: '5' :: Text.beforeLast '@' (spill zone account))) ++
        '@' :: Text.afterLast '@' (spill zone account) := by
    conv => lhs; rw [← hcut]
    simp
  rw [hwhole, Text.afterLast_append_cons (Text.not_mem_afterLast '@' _)]
  intro hin
  rw [← hcut] at hspill
  exact hspill (by simp [hin])

/-- Where it holds none, the host stands in brackets and ends at the first one after the
`%`. -/
theorem before_spill_eq_zone {r : Reading} (h : r.Legal) (hpercent : '%' ∉ plain)
    (hclose : ']' ∉ plain) (hspill : '%' ∉ spill zone account)
    (hendpoint : r.endpoint = '[' :: (plain ++ '%' :: '2' :: '5' :: spill zone account))
    (haddress : r.host.address = plain ++ '%' :: zone) :
    Text.before ']' (spill zone account) = zone := by
  have hlegal := h.host
  unfold Reading.endpoint at hendpoint
  cases hhost : r.host with
  | plain text =>
    rw [hhost] at hlegal hendpoint
    have hhead := HostText.head?_plain_append hlegal r.digits
    exact absurd (congrArg List.head? hendpoint) hhead
  | bracketed inside =>
    rw [hhost] at hlegal hendpoint haddress
    rw [HostText.text_bracketed_append, List.cons.injEq] at hendpoint
    -- the address up to the zone holds no bracket of its own
    have hinside : inside =
        plain ++ '%' :: '2' :: '5' :: Text.before ']' (spill zone account) := by
      have hbefore := congrArg (Text.before ']') hendpoint.2
      rw [Text.before_append_cons hlegal, Text.before_append_of_not_mem hclose] at hbefore
      exact hbefore
    have hfound : '%' ∉ Text.before ']' (spill zone account) :=
      fun hin => hspill (Text.mem_of_mem_before hin)
    rw [HostText.address, hinside, ← escape_zone hpercent hfound,
      Text.Percent.unescape_escape rfl] at haddress
    simpa using haddress

theorem confinedZone_of_before_spill (hat : '@' ∉ spill zone account)
    (hzone : Text.before ']' (spill zone account) = zone) : Host.ConfinedZone zone := by
  intro d hd hin
  rw [← hzone] at hin
  have hspill := Text.mem_of_mem_before hin
  have hauthority := inAuthority_of_mem_spill hspill
  simp only [List.mem_cons, List.not_mem_nil, or_false] at hd
  rcases hd with rfl | rfl | rfl | rfl
  · exact hat hspill
  · exact Text.not_mem_before ']' _ hin
  · exact absurd hauthority (by decide)
  · exact absurd hauthority (by decide)

/-- An address with a zone is only found again if the zone is confined. -/
theorem confinedZone_of_address_eq {r : Reading} (h : r.Legal)
    (hplain : ∀ c ∈ plain, Host.isLiteralChar c = true) (hzone : '%' ∉ zone)
    (hendpoint : r.endpoint =
      Text.afterLast '@' ('[' :: (plain ++ '%' :: '2' :: '5' :: spill zone account)))
    (haddress : r.host.address = plain ++ '%' :: zone) : Host.ConfinedZone zone := by
  have hpercent : '%' ∉ plain := Text.not_mem_of_class hplain rfl
  have hclose : ']' ∉ plain := Text.not_mem_of_class hplain rfl
  have hat : '@' ∉ plain := Text.not_mem_of_class hplain rfl
  have hspill : '%' ∉ spill zone account := percent_not_mem_spill hzone
  by_cases hmem : '@' ∈ spill zone account
  · -- no `%` is left for the address that is found, but the one that was written has one
    have hnot := percent_not_mem_afterLast plain hspill hmem
    rw [← hendpoint] at hnot
    have hhost : '%' ∉ r.host.text := fun hin => hnot (List.mem_append_left _ hin)
    have hfound := HostText.percent_not_mem_address hhost
    rw [haddress] at hfound
    exact absurd (by simp) hfound
  · have hnone : '@' ∉ '[' :: (plain ++ '%' :: '2' :: '5' :: spill zone account) := by
      simp [hat, hmem]
    rw [Text.afterLast_of_not_mem hnone] at hendpoint
    have heq := before_spill_eq_zone h hpercent hclose hspill hendpoint haddress
    exact confinedZone_of_before_spill hmem heq

/-! ## Reading what was written -/

/-- An account whose address is found again has a confined zone. -/
theorem confinedZone_of_decode {t : String} {again : Account} (hencode : account.encode = .ok t)
    (hdecode : decode t = .ok again)
    (hagain : again.address = account.address.map fun address =>
      String.ofList (Host.bare (Text.trim address.toList))) :
    ∀ zone, account.zone? = some zone → Host.ConfinedZone zone := by
  intro zone hzone
  obtain ⟨protocol, address, form, _, haddress, hscheme, hform, htext⟩ := encode_eq_ok hencode
  obtain ⟨r, hr, hrtext, _, rfl⟩ := exists_reading_of_decode_ok hdecode
  have hfound : r.host.address = form.text := by
    simp only [Reading.account, haddress, Option.map_some, Option.some.injEq,
      String.ofList_inj] at hagain
    rw [hagain, Host.text_eq_bare hform]
  rw [zone?_eq haddress hform] at hzone
  rcases Host.classify_eq_ok hform with ⟨rfl, hname⟩ | ⟨rfl, _, hliteral⟩
  · -- a host name has no zone
    have hpercent : '%' ∉ Text.trim address.toList := Text.not_mem_of_class hname rfl
    rw [Host.zone?, Host.Form.text, Text.after?_of_not_mem hpercent] at hzone
    simp at hzone
  · have hplain := Host.Ipv6.isLiteralChar_of_isPlainAddress
      (Host.Ipv6.isPlainAddress_of_isAddress hliteral)
    have hpercent := Host.Ipv6.percent_not_mem_zone hliteral hzone
    have hcut := Text.before_append_after hzone
    simp only [Host.Form.text] at hcut hfound
    rw [← hcut] at hfound htext
    have hendpoint :=
      endpoint_eq_afterLast_spill hr hscheme hplain hpercent (hrtext.trans htext.symm)
    exact confinedZone_of_address_eq hr hplain hpercent hendpoint hfound

/-- **What was written is found in its place exactly if the zone is confined.**  Address,
credentials and domain are then read back, the address trimmed and without brackets.  With
any other zone the connection string cannot be read, or names another address. -/
theorem decode_encode_iff_confinedZone {t : String} (hencode : account.encode = .ok t)
    (hprotocol : ∀ protocol, account.protocol = some protocol → '+' ∉ protocol.toList)
    (hport : account.port < Text.numeralBound Text.maxNumeralLength) :
    (∃ again, decode t = .ok again ∧
      (again.address = account.address.map fun address =>
        String.ofList (Host.bare (Text.trim address.toList))) ∧
      again.credentials? = account.credentials? ∧ again.domain = account.domain) ↔
    ∀ zone, account.zone? = some zone → Host.ConfinedZone zone := by
  constructor
  · rintro ⟨again, hdecode, hagain, _, _⟩
    exact confinedZone_of_decode hencode hdecode hagain
  · intro hzone
    obtain ⟨r, hr, htext, hlength, haccount⟩ :=
      exists_reading_of_encode hencode hprotocol hzone hport
    refine ⟨account.normal, ?_, rfl, Account.credentials?_normal account, rfl⟩
    rw [Reading.decode_eq_account hr htext hlength, haccount]

/-- An account for a link-local address with this zone. -/
def linkLocal (zone : String) : Account :=
  { Account.empty with
    protocol := some "imap"
    address := some ("fe80::1%" ++ zone)
    port := 143 }

theorem decode_encode_linkLocal :
    ((linkLocal "eth0").encode = .ok "imap://[fe80::1%25eth0]:143" ∧
      (∀ protocol, (linkLocal "eth0").protocol = some protocol → '+' ∉ protocol.toList) ∧
      (linkLocal "eth0").port < Text.numeralBound Text.maxNumeralLength) ∧
    ((∃ again, decode "imap://[fe80::1%25eth0]:143" = .ok again ∧
      (again.address = (linkLocal "eth0").address.map fun address =>
        String.ofList (Host.bare (Text.trim address.toList))) ∧
      again.credentials? = (linkLocal "eth0").credentials? ∧
      again.domain = (linkLocal "eth0").domain) ↔
    ∀ zone, (linkLocal "eth0").zone? = some zone → Host.ConfinedZone zone) := by
  have hencode : (linkLocal "eth0").encode = .ok "imap://[fe80::1%25eth0]:143" := rfl
  have hprotocol : ∀ protocol, (linkLocal "eth0").protocol = some protocol →
      '+' ∉ protocol.toList := by
    rintro protocol ⟨⟩
    decide
  have hport : (linkLocal "eth0").port < Text.numeralBound Text.maxNumeralLength :=
    Text.lt_numeralBound (n := 143) (k := 3) (by decide) (by decide)
  exact ⟨⟨hencode, hprotocol, hport⟩,
    decode_encode_iff_confinedZone hencode hprotocol hport⟩

/-- What an unconfined zone does: a bracket makes the connection string unreadable, and an
`@` sends the account to another host with other credentials. -/
theorem encode_unconfined :
    ((linkLocal "a]b").encode = .ok "imap://[fe80::1%25a]b]:143" ∧
      decode "imap://[fe80::1%25a]b]:143" = .error (.textAfterLiteral "b]:143")) ∧
    ((linkLocal "x@evil").encode = .ok "imap://[fe80::1%25x@evil]:143" ∧
      ∃ again, decode "imap://[fe80::1%25x@evil]:143" = .ok again ∧
        again.address = some "evil]" ∧ again.credentials? = some ("[fe80", ":1%x") ∧
        (linkLocal "x@evil").credentials? = none) := by
  refine ⟨⟨rfl, rfl⟩, rfl, _, rfl, ?_, ?_, ?_⟩ <;> decide

end MailConnection.ConnectionString
