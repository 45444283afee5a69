import MailConnection.ConnectionString.Encode
import MailConnection.Proofs.Host.Grammar

/-!
# Which accounts can be written

An account has a connection string if its protocol and its address are legal.  What is legal
is said here by a grammar: a protocol is a letter, followed by letters, digits, `+`, `-` and
`.` (`SchemeName`), and the trimmed address is a host (`Host.Admitted`).  An account that has no
connection string is refused for the first component that is missing or illegal
(`Account.FirstFailing`).

`Account.DecidedBy` puts the two together, for any notion of a legal protocol and a legal host.
The checks decide by a notion that is a little wider than the grammar: they overlook a line feed
at the end of a protocol that no suffix follows, and at the end of a label of a host name.  The
main statement, `encode_decided`, says that the outcome is that of the wider notion for every
account, and that it is the one of the grammar for all accounts but those with such a line feed
(`Account.HasStrayFeed`).
-/

namespace MailConnection

/-! ## Protocols -/

namespace ConnectionString

/-- A character that may follow the first one of a protocol. -/
def SchemeChar (c : Char) : Prop := c.isAlphanum = true ∨ c ∈ ['+', '-', '.']

/-- A letter, followed by letters, digits, `+`, `-` and `.`. -/
def SchemeName (cs : List Char) : Prop :=
  ∃ first rest, cs = first :: rest ∧ first.isAlpha = true ∧ ∀ c ∈ rest, SchemeChar c

/-- A legal protocol, or one that is legal but for a line feed at the end if nothing follows
it in the scheme. -/
def AcceptedProtocol (mode : SecurityMode) (cs : List Char) : Prop :=
  SchemeName cs ∨ (Scheme.suffix mode = "" ∧ ∃ name, cs = name ++ ['\n'] ∧ SchemeName name)

theorem isPlainScheme_iff {cs : List Char} : isPlainScheme cs = true ↔ SchemeName cs := by
  have hchar (c : Char) :
      (c.isAlphanum || c == '+' || c == '-' || c == '.') = true ↔ SchemeChar c := by
    simp [SchemeChar, or_assoc]
  cases cs with
  | nil => simp [isPlainScheme, SchemeName]
  | cons first rest =>
    simp only [isPlainScheme, List.head?_cons, Option.any_some, Bool.and_eq_true, List.all_cons,
      List.all_eq_true, hchar, SchemeName, List.cons.injEq]
    constructor
    · rintro ⟨halpha, _, hrest⟩
      exact ⟨first, rest, ⟨rfl, rfl⟩, halpha, hrest⟩
    · rintro ⟨_, _, ⟨rfl, rfl⟩, halpha, hrest⟩
      refine ⟨halpha, .inl ?_, hrest⟩
      rw [Char.isAlphanum, halpha, Bool.true_or]

/-- A suffix starts with a plus sign, holds legal characters and ends in no line feed. -/
theorem suffix_chars (mode : SecurityMode) :
    (∀ c ∈ (Scheme.suffix mode).toList, SchemeChar c) ∧
      (Scheme.suffix mode).toList.head? ∈ [none, some '+'] ∧
      (Scheme.suffix mode).toList.getLast? ≠ some '\n' := by
  have hall : (Scheme.suffix mode).toList.all
      (fun c => c.isAlphanum || ['+', '-', '.'].contains c) = true := by
    obtain ⟨ssl, tls, trustAll⟩ := mode
    cases ssl <;> cases tls <;> cases trustAll <;> decide
  refine ⟨fun c hc => ?_, ?_⟩
  · have hchar := List.all_eq_true.mp hall c hc
    rwa [Bool.or_eq_true, List.contains_iff_mem] at hchar
  · obtain ⟨ssl, tls, trustAll⟩ := mode
    cases ssl <;> cases tls <;> cases trustAll <;> decide

/-- A suffix neither makes a protocol legal nor illegal. -/
theorem schemeName_append_suffix (mode : SecurityMode) {cs : List Char} :
    SchemeName (cs ++ (Scheme.suffix mode).toList) ↔ SchemeName cs := by
  obtain ⟨hchars, hhead, _⟩ := suffix_chars mode
  cases cs with
  | nil =>
    -- a suffix alone starts with a plus sign
    refine ⟨?_, fun ⟨_, _, hnil, _⟩ => absurd hnil (by simp)⟩
    rintro ⟨first, rest, hsuffix, halpha, _⟩
    rw [List.nil_append] at hsuffix
    simp only [hsuffix, List.head?_cons, List.mem_cons, reduceCtorEq, Option.some.injEq,
      List.not_mem_nil, or_false, false_or] at hhead
    subst hhead
    exact absurd halpha (by decide)
  | cons first rest =>
    simp only [SchemeName, List.cons_append, List.cons.injEq]
    constructor
    · rintro ⟨_, _, ⟨rfl, rfl⟩, halpha, hrest⟩
      exact ⟨first, rest, ⟨rfl, rfl⟩, halpha, fun c hc => hrest c (List.mem_append_left _ hc)⟩
    · rintro ⟨_, _, ⟨rfl, rfl⟩, halpha, hrest⟩
      refine ⟨first, _, ⟨rfl, rfl⟩, halpha, fun c hc => ?_⟩
      rcases List.mem_append.mp hc with hc | hc
      · exact hrest c hc
      · exact hchars c hc

theorem isScheme_iff {mode : SecurityMode} {protocol : String} :
    isScheme (Scheme.encode protocol mode).toList = true ↔
      AcceptedProtocol mode protocol.toList := by
  have hfeed : isScheme (Scheme.encode protocol mode).toList = true ↔
      Text.UpToFeed SchemeName (Scheme.encode protocol mode).toList :=
    Text.upToFeed_iff isPlainScheme SchemeName isPlainScheme_iff
  rw [hfeed, Scheme.toList_encode, Text.UpToFeed, schemeName_append_suffix, AcceptedProtocol]
  refine or_congr_right ⟨?_, ?_⟩
  · rintro ⟨init, hinit, hname⟩
    by_cases hsuffix : Scheme.suffix mode = ""
    · rw [hsuffix] at hinit
      exact ⟨hsuffix, init, by simpa using hinit, hname⟩
    · -- the line feed would have to be the end of the suffix
      have hlast := congrArg List.getLast? hinit
      have hsome : (Scheme.suffix mode).toList ≠ [] := by simpa using hsuffix
      rw [List.getLast?_append, Option.or_of_isSome (List.getLast?_isSome.mpr hsome),
        List.getLast?_concat] at hlast
      exact absurd hlast (suffix_chars mode).2.2
  · rintro ⟨hsuffix, name, hprotocol, hname⟩
    refine ⟨name, ?_, hname⟩
    rw [hsuffix, hprotocol]
    simp

theorem feed_not_mem_schemeName {cs : List Char} (h : SchemeName cs) : '\n' ∉ cs := by
  obtain ⟨first, rest, rfl, halpha, hrest⟩ := h
  intro hmem
  rcases List.mem_cons.mp hmem with rfl | hmem
  · exact absurd halpha (by decide)
  · rcases hrest '\n' hmem with halnum | hmark
    · exact absurd halnum (by decide)
    · exact absurd hmark (by decide)

end ConnectionString

/-! ## Components -/

/-- A component of an account that a report can be about. -/
inductive Component where
  | protocol
  | scheme
  | address
deriving DecidableEq, Repr

/-- The word for a component. -/
def Component.name : Component → String
  | .protocol => "protocol"
  | .scheme => "scheme"
  | .address => "address"

/-- The component that an error is about. -/
def EncodeError.component : EncodeError → Component
  | .protocolMissing => .protocol
  | .schemeIllegal _ => .scheme
  | .addressMissing => .address
  | .addressIllegal .. => .address

/-- The words for an error name the component, then say how it was written and what is wrong. -/
theorem EncodeError.exists_message (error : EncodeError) :
    ∃ shown reason : String,
      error.message = "Invalid " ++ error.component.name ++ " " ++ shown ++ ": " ++ reason := by
  cases error with
  | protocolMissing => exact ⟨"None", "a protocol is required", rfl⟩
  | schemeIllegal scheme =>
    let reason := "must start with a letter and contain only letters, digits, '+', '-' or '.'"
    refine ⟨Text.quotedString scheme, reason, ?_⟩
    calc (schemeIllegal scheme).message
        = "Invalid scheme " ++ Text.quotedString scheme ++ (": " ++ reason) := rfl
      _ = "Invalid scheme " ++ Text.quotedString scheme ++ ": " ++ reason :=
        String.append_assoc.symm
  | addressMissing => exact ⟨"None", "a host is required", rfl⟩
  | addressIllegal address defect => exact ⟨Text.quotedString address, defect.reason, rfl⟩

namespace Account

open ConnectionString

section Decided

variable (legalProtocol legalHost : List Char → Prop)

/-- There is a protocol, and it is legal. -/
def HasProtocol (account : Account) : Prop :=
  ∃ protocol, account.protocol = some protocol ∧ legalProtocol protocol.toList

/-- There is an address, and it is legal when trimmed. -/
def HasAddress (account : Account) : Prop :=
  ∃ address, account.address = some address ∧ legalHost (Text.trim address.toList)

section
variable {legalProtocol legalHost} {account : Account}

theorem not_hasProtocol_of_none (h : account.protocol = none) :
    ¬ account.HasProtocol legalProtocol := by
  simp [HasProtocol, h]

theorem hasProtocol_iff {protocol : String} (h : account.protocol = some protocol) :
    account.HasProtocol legalProtocol ↔ legalProtocol protocol.toList := by
  simp [HasProtocol, h]

theorem not_hasAddress_of_none (h : account.address = none) :
    ¬ account.HasAddress legalHost := by
  simp [HasAddress, h]

theorem hasAddress_iff {address : String} (h : account.address = some address) :
    account.HasAddress legalHost ↔ legalHost (Text.trim address.toList) := by
  simp [HasAddress, h]

end

/-- The first component that is missing or illegal, in the order in which they are written. -/
inductive FirstFailing (account : Account) : Component → Prop
  | protocol (h : account.protocol = none) : FirstFailing account .protocol
  | scheme {protocol : String} (h : account.protocol = some protocol)
      (hillegal : ¬ legalProtocol protocol.toList) : FirstFailing account .scheme
  | address (h : account.HasProtocol legalProtocol) (hillegal : ¬ account.HasAddress legalHost) :
      FirstFailing account .address

/-- Whether the account can be written, and which component it is refused for if not, follows
from what is legal. -/
structure DecidedBy (account : Account) : Prop where
  written : (∃ t, account.encode = .ok t) ↔
    account.HasProtocol legalProtocol ∧ account.HasAddress legalHost
  refused : ∀ component, (∃ error, account.encode = .error error ∧ error.component = component) ↔
    FirstFailing legalProtocol legalHost account component

variable {legalProtocol legalHost} {account : Account}

theorem FirstFailing.not_legal {component : Component}
    (h : FirstFailing legalProtocol legalHost account component) :
    ¬ (account.HasProtocol legalProtocol ∧ account.HasAddress legalHost) := by
  rintro ⟨hprotocol, haddress⟩
  cases h with
  | protocol hnone => exact not_hasProtocol_of_none hnone hprotocol
  | scheme hsome hillegal => exact hillegal ((hasProtocol_iff hsome).mp hprotocol)
  | address _ hillegal => exact hillegal haddress

theorem FirstFailing.unique {component other : Component}
    (h : FirstFailing legalProtocol legalHost account component)
    (hother : FirstFailing legalProtocol legalHost account other) : component = other := by
  cases h with
  | protocol hnone =>
    cases hother with
    | protocol => rfl
    | scheme hsome => simp [hnone] at hsome
    | address hprotocol => exact absurd hprotocol (not_hasProtocol_of_none hnone)
  | scheme hsome hillegal =>
    cases hother with
    | protocol hnone => simp [hsome] at hnone
    | scheme => rfl
    | address hprotocol => exact absurd ((hasProtocol_iff hsome).mp hprotocol) hillegal
  | address hprotocol _ =>
    cases hother with
    | protocol hnone => exact absurd hprotocol (not_hasProtocol_of_none hnone)
    | scheme hsome hillegal => exact absurd ((hasProtocol_iff hsome).mp hprotocol) hillegal
    | address => rfl

/-- It is enough that every outcome has its reason: no two of the reasons go together. -/
theorem DecidedBy.of_outcomes
    (hok : ∀ t, account.encode = .ok t →
      account.HasProtocol legalProtocol ∧ account.HasAddress legalHost)
    (herror : ∀ error, account.encode = .error error →
      FirstFailing legalProtocol legalHost account error.component) :
    account.DecidedBy legalProtocol legalHost where
  written := by
    refine ⟨fun ⟨t, ht⟩ => hok t ht, fun hlegal => ?_⟩
    cases hencode : account.encode with
    | ok t => exact ⟨t, rfl⟩
    | error error => exact absurd hlegal (herror error hencode).not_legal
  refused component := by
    constructor
    · rintro ⟨error, hencode, rfl⟩
      exact herror error hencode
    · intro hfailing
      cases hencode : account.encode with
      | ok t => exact absurd (hok t hencode) hfailing.not_legal
      | error error => exact ⟨error, rfl, (herror error hencode).unique hfailing⟩

end Decided

/-! ## What the checks decide by -/

variable {account : Account}

theorem encode_eq (account : Account) :
    account.encode =
      match writeScheme account, writeHost account with
      | .error error, _ => .error error
      | .ok _, .error error => .error error
      | .ok scheme, .ok host =>
        .ok (String.ofList (scheme ++ ':' :: '/' :: '/' ::
          (writeCredentials account.credentials? ++
            (host ++ (writePort account.port ++ writeDomain account.domain))))) := by
  rw [encode]
  cases writeScheme account with
  | error error => rfl
  | ok scheme => cases writeHost account <;> rfl

theorem hasProtocol_of_writeScheme {scheme : List Char} (h : writeScheme account = .ok scheme) :
    account.HasProtocol (AcceptedProtocol account.flags.mode) := by
  revert h
  fun_cases writeScheme account with
  | case1 | case3 => rintro ⟨⟩
  | case2 protocol hprotocol scheme hscheme =>
    intro _
    exact ⟨protocol, hprotocol, isScheme_iff.mp hscheme⟩

theorem firstFailing_of_writeScheme {error : EncodeError} (h : writeScheme account = .error error)
    (legalHost : List Char → Prop) :
    FirstFailing (AcceptedProtocol account.flags.mode) legalHost account error.component := by
  revert h
  fun_cases writeScheme account with
  | case1 hnone =>
    rintro ⟨⟩
    exact .protocol hnone
  | case2 => rintro ⟨⟩
  | case3 protocol hprotocol scheme hscheme =>
    rintro ⟨⟩
    exact .scheme hprotocol fun hlegal => hscheme (isScheme_iff.mpr hlegal)

theorem hasAddress_of_writeHost {host : List Char} (h : writeHost account = .ok host) :
    account.HasAddress (Host.Admitted (Text.UpToFeed Host.Label)) := by
  revert h
  fun_cases writeHost account with
  | case1 | case3 => rintro ⟨⟩
  | case2 address haddress trimmed form hform =>
    intro _
    exact ⟨address, haddress, Host.classify_ok_iff.mp ⟨form, hform⟩⟩

theorem not_hasAddress_of_writeHost {error : EncodeError} (h : writeHost account = .error error) :
    error.component = .address ∧
      ¬ account.HasAddress (Host.Admitted (Text.UpToFeed Host.Label)) := by
  revert h
  fun_cases writeHost account with
  | case1 hnone =>
    rintro ⟨⟩
    exact ⟨rfl, not_hasAddress_of_none hnone⟩
  | case2 => rintro ⟨⟩
  | case3 address haddress trimmed defect hdefect =>
    rintro ⟨⟩
    refine ⟨rfl, fun hlegal => ?_⟩
    obtain ⟨form, hform⟩ := Host.classify_ok_iff.mpr ((hasAddress_iff haddress).mp hlegal)
    exact absurd (hdefect.symm.trans hform) (by simp)

/-- **Line feeds at the end are overlooked,** and nothing else. -/
theorem decidedBy_accepted (account : Account) :
    account.DecidedBy (AcceptedProtocol account.flags.mode)
      (Host.Admitted (Text.UpToFeed Host.Label)) := by
  refine .of_outcomes ?_ ?_
  · intro t ht
    rw [encode_eq] at ht
    split at ht
    · simp at ht
    · simp at ht
    · rename_i scheme host hscheme hhost
      exact ⟨hasProtocol_of_writeScheme hscheme, hasAddress_of_writeHost hhost⟩
  · intro error herror
    rw [encode_eq] at herror
    split at herror
    · rename_i hscheme
      obtain rfl := Except.error.inj herror
      exact firstFailing_of_writeScheme hscheme _
    · rename_i scheme hscheme hhost
      obtain rfl := Except.error.inj herror
      obtain ⟨hcomponent, hillegal⟩ := not_hasAddress_of_writeHost hhost
      rw [hcomponent]
      exact .address (hasProtocol_of_writeScheme hscheme) hillegal
    · simp at herror

/-! ## Stray line feeds -/

/-- A line feed that is overlooked: at the end of a protocol without a suffix, or, behind a
legal protocol, at the end of a label of a host name. -/
def HasStrayFeed (account : Account) : Prop :=
  (Scheme.suffix account.flags.mode = "" ∧
      account.HasProtocol fun cs => ∃ name, cs = name ++ ['\n'] ∧ SchemeName name) ∨
    (account.HasProtocol SchemeName ∧ account.HasAddress Host.HasFeed)

theorem schemeName_of_accepted {protocol : String} (hstray : ¬ account.HasStrayFeed)
    (hprotocol : account.protocol = some protocol)
    (h : AcceptedProtocol account.flags.mode protocol.toList) : SchemeName protocol.toList := by
  rcases h with hname | ⟨hsuffix, hfeed⟩
  · exact hname
  · exact absurd (.inl ⟨hsuffix, protocol, hprotocol, hfeed⟩) hstray

theorem decidedBy_legal (hstray : ¬ account.HasStrayFeed) :
    account.DecidedBy SchemeName (Host.Admitted Host.Label) := by
  have haccepted := decidedBy_accepted account
  refine .of_outcomes ?_ ?_
  · intro t ht
    obtain ⟨⟨protocol, hprotocol, hname⟩, address, haddress, hhost⟩ := haccepted.written.mp ⟨t, ht⟩
    have hlegal : account.HasProtocol SchemeName :=
      ⟨protocol, hprotocol, schemeName_of_accepted hstray hprotocol hname⟩
    rcases Host.admitted_upToFeed_iff.mp hhost with hhost | hfeed
    · exact ⟨hlegal, address, haddress, hhost⟩
    · exact absurd (.inr ⟨hlegal, address, haddress, hfeed⟩) hstray
  · intro error herror
    have hfailing := (haccepted.refused error.component).mp ⟨error, herror, rfl⟩
    generalize error.component = component at hfailing
    cases hfailing with
    | protocol hnone => exact .protocol hnone
    | scheme hsome hillegal => exact .scheme hsome fun hname => hillegal (.inl hname)
    | address hprotocol hillegal =>
      obtain ⟨protocol, hprotocol, hname⟩ := hprotocol
      refine .address ⟨protocol, hprotocol, schemeName_of_accepted hstray hprotocol hname⟩ ?_
      rintro ⟨address, haddress, hhost⟩
      exact hillegal ⟨address, haddress, Host.admitted_upToFeed_iff.mpr (.inl hhost)⟩

theorem not_decidedBy_legal (hstray : account.HasStrayFeed) :
    ¬ account.DecidedBy SchemeName (Host.Admitted Host.Label) := by
  intro hlegal
  have haccepted := decidedBy_accepted account
  rcases hstray with ⟨hsuffix, protocol, hprotocol, name, hfeed, hname⟩ |
    ⟨⟨protocol, hprotocol, hname⟩, address, haddress, hfeed⟩
  · -- the grammar has the scheme refused, and the check accepts it
    have hillegal : ¬ SchemeName protocol.toList := by
      intro hlegalName
      refine feed_not_mem_schemeName hlegalName ?_
      rw [hfeed]
      simp
    obtain ⟨error, herror, hcomponent⟩ := (hlegal.refused .scheme).mpr (.scheme hprotocol hillegal)
    have hfailing := (haccepted.refused .scheme).mp ⟨error, herror, hcomponent⟩
    have haccepts : account.HasProtocol (AcceptedProtocol account.flags.mode) :=
      (hasProtocol_iff hprotocol).mpr (.inr ⟨hsuffix, name, hfeed, hname⟩)
    cases hfailing with
    | scheme hsome hnot => exact hnot ((hasProtocol_iff hsome).mp haccepts)
  · -- the check accepts the whole account
    have hadmitted := Host.admitted_upToFeed_iff.mpr (.inr hfeed)
    obtain ⟨t, ht⟩ := haccepted.written.mpr
      ⟨⟨protocol, hprotocol, .inl hname⟩, address, haddress, hadmitted⟩
    have hlegalHost := (hlegal.written.mp ⟨t, ht⟩).2
    exact Host.not_admitted_of_hasFeed hfeed ((hasAddress_iff haddress).mp hlegalHost)

/-- **An account can be written exactly if its protocol and its address are legal,** and if
not, the error names the first component that is not; a line feed is overlooked where it ends
a protocol without a suffix or a label of a host name.  So the grammar decides all accounts
but those with such a line feed, and it decides none of these. -/
theorem encode_decided (account : Account) :
    account.DecidedBy (AcceptedProtocol account.flags.mode)
        (Host.Admitted (Text.UpToFeed Host.Label)) ∧
      (account.DecidedBy SchemeName (Host.Admitted Host.Label) ↔ ¬ account.HasStrayFeed) ∧
      ∀ error, account.encode = .error error → ∃ shown reason : String,
        error.message = "Invalid " ++ error.component.name ++ " " ++ shown ++ ": " ++ reason := by
  refine ⟨decidedBy_accepted account, ?_, fun error _ => error.exists_message⟩
  exact ⟨fun hlegal hstray => not_decidedBy_legal hstray hlegal, decidedBy_legal⟩

/-- An account with this protocol and this address, and nothing else. -/
def leadingTo (protocol address : String) : Account :=
  { empty with protocol := some protocol, address := some address }

/-- A protocol that ends in a line feed is no legal protocol, and a host name with one in the
middle is no host; both are written all the same. -/
theorem encode_strayFeeds :
    ((leadingTo "imap\n" "h").encode = .ok "imap\n://h" ∧
      ¬ (leadingTo "imap\n" "h").HasProtocol SchemeName ∧
      ¬ (leadingTo "imap\n" "h").DecidedBy SchemeName (Host.Admitted Host.Label)) ∧
    (leadingTo "imap" "a\n.b").encode = .ok "imap://a\n.b" ∧
      ¬ (leadingTo "imap" "a\n.b").HasAddress (Host.Admitted Host.Label) ∧
      ¬ (leadingTo "imap" "a\n.b").DecidedBy SchemeName (Host.Admitted Host.Label) := by
  have himap : SchemeName ['i', 'm', 'a', 'p'] := isPlainScheme_iff.mp (by decide)
  have hprotocol : ¬ (leadingTo "imap\n" "h").HasProtocol SchemeName := fun hlegal =>
    feed_not_mem_schemeName ((hasProtocol_iff rfl).mp hlegal) (by decide)
  have hfeed : Host.HasFeed (Text.trim "a\n.b".toList) :=
    ⟨by decide, Host.name_iff.mpr ⟨by decide, by decide⟩⟩
  have haddress : ¬ (leadingTo "imap" "a\n.b").HasAddress (Host.Admitted Host.Label) :=
    fun hlegal => Host.not_admitted_of_hasFeed hfeed ((hasAddress_iff rfl).mp hlegal)
  refine ⟨⟨rfl, hprotocol, not_decidedBy_legal ?_⟩, rfl, haddress, not_decidedBy_legal ?_⟩
  · exact .inl ⟨rfl, "imap\n", rfl, _, rfl, himap⟩
  · exact .inr ⟨⟨"imap", rfl, himap⟩, "a\n.b", rfl, hfeed⟩

end Account

end MailConnection
