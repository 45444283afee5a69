import MailConnection.Proofs.ConnectionString.Decoded

/-!
# Canonical connection strings

A connection string is `Canonical` when reading it and writing what was read gives it
back.  Foreign strings are not: `imap://h/?x` is read, but what is written for it is
`imap://h:143/`.  What was written once is, and this file shows why.

An account that was written comes back in normal form (`exists_reading_of_encode`), so
what has to be shown is that the normal form is written like the account itself
(`Account.encode_normal`).  Each part of the string has its own reason:

* the scheme, because the modes that are lost have no suffix (`Scheme.encode_normalMode`);
* the host, because trimming and taking off the brackets lead to a text of which
  neither is left to do (`classify_trim_bare`);
* the port, because it is written if it is kept, and left out if none is inferred;
* the credentials and the domain, because they are not changed at all.

Two kinds of accounts are left out.  The zone of an IPv6 address may end in blanks, which
stay as long as a bracket follows them and are trimmed once it is gone.  And a negative
port is not written, but the port that is inferred in its place is.
-/

namespace MailConnection

/-! ## Schemes -/

/-- A mode that does not come back has no suffix, like the one that comes in its place. -/
theorem Scheme.encode_normalMode (protocol : String) (mode : SecurityMode) :
    encode protocol (normalMode mode) = encode protocol mode := by
  obtain ⟨ssl, tls, trustAll⟩ := mode
  cases ssl <;> cases tls <;> cases trustAll <;> rfl

/-! ## Hosts -/

namespace Host

theorem trim_eq_self_of_literal {cs : List Char} (h : ∀ c ∈ cs, isLiteralChar c = true) :
    Text.trim cs = cs := by
  apply Text.trimBy_eq_self
  · intro c hhead
    exact isBlank_of_isLiteralChar (h c (List.mem_of_mem_head? hhead))
  · intro c hlast
    exact isBlank_of_isLiteralChar (h c (List.mem_of_getLast? hlast))

theorem unbracket_eq_self_of_literal {cs : List Char} (h : ∀ c ∈ cs, isLiteralChar c = true) :
    unbracket cs = cs := by
  unfold unbracket
  split
  · rename_i hbrackets
    have hopen : '[' ∉ cs := Text.not_mem_of_class h rfl
    exact absurd (List.mem_of_mem_head? hbrackets.1) hopen
  · rfl

/-- **The address that comes back is the same host.**  Trimming it again, or taking off
brackets once more, has no effect. -/
theorem classify_trim_bare {cs : List Char} {form : Form} (hpercent : '%' ∉ cs)
    (h : classify (Text.trim cs) = .ok form) :
    classify (Text.trim (bare (Text.trim cs))) = .ok form := by
  rcases classify_eq_ok h with ⟨rfl, hname⟩ | ⟨rfl, hcolon, haddress⟩
  · -- a name is kept as it is
    have hcolon : ':' ∉ Text.trim cs := Text.not_mem_of_class hname rfl
    rw [bare, if_neg hcolon, Text.trim_trim]
    exact h
  · -- a literal without a zone has no blanks inside and no brackets
    have hplain : ∀ c ∈ unbracket (Text.trim cs), isLiteralChar c = true := by
      apply Ipv6.isLiteralChar_of_isAddress haddress
      intro hmem
      exact hpercent (Text.mem_of_mem_trimBy (mem_of_mem_unbracket hmem))
    have hinside : ':' ∈ unbracket (Text.trim cs) := mem_unbracket hcolon (by decide) (by decide)
    have hne : unbracket (Text.trim cs) ≠ [] := List.ne_nil_of_mem hinside
    rw [bare, if_pos hcolon, trim_eq_self_of_literal hplain, classify, if_neg hne, if_pos hinside,
      unbracket_eq_self_of_literal hplain, if_pos haddress]

end Host

/-! ## Accounts -/

namespace Account

variable {account : Account}

/-- The port is written, or left out where none is inferred. -/
def KeepsPort (account : Account) : Prop :=
  (0 ≤ account.port ∧ account.port < Text.numeralBound Text.maxNumeralLength) ∨
    (account.port < 0 ∧ ∀ protocol, account.protocol = some protocol →
      ∀ ssl, defaultPort? protocol ssl = none)

theorem zone?_of_percent_not_mem
    (h : ∀ address, account.address = some address → '%' ∉ address.toList) :
    account.zone? = none := by
  unfold zone?
  cases haddress : account.address with
  | none => rfl
  | some address =>
    have hpercent : '%' ∉ Host.unbracket (Text.trim address.toList) := by
      intro hmem
      exact h address haddress (Text.mem_of_mem_trimBy (Host.mem_of_mem_unbracket hmem))
    simp only [Option.bind_some, Host.zone?, Text.after?_of_not_mem hpercent, ite_self]

theorem port_lt_of_keepsPort (h : account.KeepsPort) :
    account.port < Text.numeralBound Text.maxNumeralLength := by
  rcases h with ⟨_, hlt⟩ | ⟨hneg, _⟩
  · exact hlt
  · have hbound : (0 : Int) ≤ Text.numeralBound Text.maxNumeralLength := Int.natCast_nonneg _
    omega

open ConnectionString

/-- A port that is written comes back, and one that is left out leaves nothing behind. -/
theorem writePort_normal {protocol : String} (hprotocol : account.protocol = some protocol)
    (h : account.KeepsPort) : writePort account.normal.port = writePort account.port := by
  simp only [normal, hprotocol, Option.getD_some]
  rcases h with ⟨hnonneg, _⟩ | ⟨hneg, hdefault⟩
  · rw [if_pos hnonneg]
  · -- the bit for SSL may have changed, but the protocol has no port with or without it
    have hinferred (ssl : Bool) : inferredPort protocol ssl = unknownPort := by
      rw [inferredPort, hdefault protocol hprotocol ssl]
    obtain ⟨n, hn⟩ := Int.eq_negSucc_of_lt_zero hneg
    rw [if_neg (Int.not_le.mpr hneg), hinferred, hn]
    rfl

/-- **The normal form is written like the account.** -/
theorem encode_normal {t : String} (hencode : account.encode = .ok t)
    (haddress : ∀ address, account.address = some address → '%' ∉ address.toList)
    (hport : account.KeepsPort) : account.normal.encode = .ok t := by
  obtain ⟨protocol, address, form, hprotocol, hsome, hscheme, hform, _⟩ := encode_eq_ok hencode
  have hwriteScheme : writeScheme account.normal = writeScheme account := by
    simp only [writeScheme, normal, hprotocol, Scheme.encode_normalMode, hscheme, if_true]
  have hwriteHost : writeHost account.normal = writeHost account := by
    have hagain := Host.classify_trim_bare (haddress address hsome) hform
    simp only [writeHost, normal, hsome, Option.map_some, String.toList_ofList, hform, hagain]
  have hwritePort := writePort_normal hprotocol hport
  have hdomain : account.normal.domain = account.domain := rfl
  rw [← hencode]
  simp only [encode, hwriteScheme, hwriteHost, credentials?_normal, hwritePort, hdomain]

end Account

/-! ## Connection strings -/

namespace ConnectionString

/-- Reading the connection string and writing what was read gives it back. -/
def Canonical (t : String) : Prop :=
  ∃ account, decode t = .ok account ∧ account.encode = .ok t

variable {account : Account}

theorem canonical_of_encode {t : String} (hencode : account.encode = .ok t)
    (hprotocol : ∀ protocol, account.protocol = some protocol → '+' ∉ protocol.toList)
    (haddress : ∀ address, account.address = some address → '%' ∉ address.toList)
    (hport : account.KeepsPort) : Canonical t := by
  have hzone := Account.zone?_of_percent_not_mem haddress
  obtain ⟨r, hlegal, htext, hlength, haccount⟩ :=
    exists_reading_of_encode hencode hprotocol (by simp [hzone])
      (Account.port_lt_of_keepsPort hport)
  refine ⟨account.normal, ?_, Account.encode_normal hencode haddress hport⟩
  rw [Reading.decode_eq_account hlegal htext hlength, haccount]

theorem defaultPort?_of_inferredPort {protocol : String} {ssl : Bool}
    (h : inferredPort protocol ssl = unknownPort) (ssl' : Bool) :
    defaultPort? protocol ssl' = none := by
  have hname : MailProtocol.ofName? protocol = none := by
    cases hofName : MailProtocol.ofName? protocol with
    | none => rfl
    | some known =>
      simp only [inferredPort, defaultPort?, hofName, Option.map_some, unknownPort] at h
      omega
  rw [defaultPort?, hname, Option.map_none]

/-- An account that was read keeps its port. -/
theorem keepsPort_of_decoded (h : account.Decoded) : account.KeepsPort := by
  by_cases hnonneg : 0 ≤ account.port
  · exact .inl ⟨hnonneg, h.port_lt⟩
  · have hneg : account.port < 0 := Int.not_le.mp hnonneg
    refine .inr ⟨hneg, ?_⟩
    intro protocol hprotocol
    have hinferred := (h.port_of_neg hneg).2
    rw [hprotocol, Option.getD_some] at hinferred
    exact defaultPort?_of_inferredPort hinferred

/-- **What was written is canonical.**  This holds of every account whose protocol can be
found again, whose address has no zone and whose port is kept; and so it holds of every
account that was read, whatever it was read from. -/
theorem encode_canonical :
    (∀ (account : Account) (t : String), account.encode = .ok t →
      (∀ protocol, account.protocol = some protocol → '+' ∉ protocol.toList) →
      (∀ address, account.address = some address → '%' ∉ address.toList) →
      account.KeepsPort → Canonical t) ∧
    (∀ (s t : String) (account : Account), decode s = .ok account → account.encode = .ok t →
      (∀ address, account.address = some address → '%' ∉ address.toList) → Canonical t) := by
  refine ⟨fun account t => canonical_of_encode, ?_⟩
  intro s t account hdecode hencode haddress
  have hdecoded := decoded_of_decode hdecode
  exact canonical_of_encode hencode hdecoded.protocol haddress (keepsPort_of_decoded hdecoded)

/-- An account for an unknown protocol, every part of which is written in another way than it
is stored. -/
def unpolished : Account where
  id := some 3
  protocol := some "xmpp"
  address := some " [2001:db8::1] "
  port := -7
  flags := ⟨⟨true, true, true⟩, true, 5⟩
  login := some " bob:home "
  password := none
  domain := some "a b"

theorem encode_canonical_unpolished :
    (unpolished.encode = .ok "xmpp://bob%3Ahome:@[2001:db8::1]/a%20b" ∧
      (∀ protocol, unpolished.protocol = some protocol → '+' ∉ protocol.toList) ∧
      (∀ address, unpolished.address = some address → '%' ∉ address.toList) ∧
      unpolished.KeepsPort ∧ Canonical "xmpp://bob%3Ahome:@[2001:db8::1]/a%20b") ∧
    (decode "imap+none+trustallcerts://%20alice%20@[%5B::1%5D]:/?x" = .ok foreign ∧
      foreign.encode = .ok "imap://alice:@[::1]:143/" ∧
      (∀ address, foreign.address = some address → '%' ∉ address.toList) ∧
      Canonical "imap://alice:@[::1]:143/") := by
  have hencode : unpolished.encode = .ok "xmpp://bob%3Ahome:@[2001:db8::1]/a%20b" := rfl
  have hprotocol : ∀ protocol, unpolished.protocol = some protocol → '+' ∉ protocol.toList := by
    rintro protocol ⟨⟩
    decide
  have haddress : ∀ address, unpolished.address = some address → '%' ∉ address.toList := by
    rintro address ⟨⟩
    decide
  have hport : unpolished.KeepsPort := by
    refine .inr ⟨by decide, ?_⟩
    rintro protocol ⟨⟩ ssl
    rfl
  have hdecode : decode "imap+none+trustallcerts://%20alice%20@[%5B::1%5D]:/?x" =
    .ok foreign := rfl
  have hforeign : foreign.encode = .ok "imap://alice:@[::1]:143/" := rfl
  have hplain : ∀ address, foreign.address = some address → '%' ∉ address.toList := by
    rintro address ⟨⟩
    decide
  exact ⟨⟨hencode, hprotocol, haddress, hport,
      encode_canonical.1 unpolished _ hencode hprotocol haddress hport⟩,
    hdecode, hforeign, hplain, encode_canonical.2 _ _ foreign hdecode hforeign hplain⟩

end ConnectionString

end MailConnection
