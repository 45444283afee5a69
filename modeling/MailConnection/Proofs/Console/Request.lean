import MailConnection.Proofs.Console.Ending
import MailConnection.Proofs.Console.Given
import MailConnection.Proofs.ConnectionString.Acceptance
import MailConnection.Proofs.ConnectionString.Canonical

/-!
# What `encode` is asked for

The command `encode` makes a connection string from a protocol, a host and some options.  A
`Request` is what it is asked for, and `Request.account` the account that is meant by it.  Two
things stand between them and the string that is printed:

* the command builds an account of its own, `Request.stored`, which keeps the host as it was
  given and a password only beside a login (`connected_complete`);
* the port may be inferred at two times.  A port that is unknown is inferred when the account is
  built; any other negative one is left out of the string and inferred by whoever reads it.  Both
  times it is the same protocol and the same bit for SSL, so that the two agree (`port_normal`).

`answers_encode` says that what is printed is read as the account that was meant, and that where
nothing is printed there is one complaint about a component.  It says so of every request and of
every run, since what is read from a command line is a request (`exists_fields_eq`).
-/

namespace MailConnection.Console

/-! ## Requests -/

/-- How a connection is protected, if it is. -/
inductive Protection where
  | ssl
  | tls
deriving DecidableEq, Repr

/-- What the command `encode` is asked for.  SSL and TLS exclude each other. -/
structure Request where
  protocol : String
  host : String
  port : Int
  protection : Option Protection
  trustAll : Bool
  login : Option String
  password : Option String
  domain : Option String
deriving DecidableEq, Repr

namespace Request

/-- The security mode of the options, whatever sense it makes. -/
def mode (request : Request) : SecurityMode where
  ssl := request.protection = some .ssl
  tls := request.protection = some .tls
  trustAll := request.trustAll

/-- The request as the fields of the command. -/
def fields (request : Request) : EncodeFields where
  protocol := .text request.protocol
  host := .text request.host
  port := .int request.port
  mode := request.mode
  login := Account.textValue request.login
  password := Account.textValue request.password
  domain := Account.textValue request.domain

/-- The account that a request means.

* Security tokens in the protocol have no effect.
* The host is meant without blanks around it, and an IPv6 literal without brackets.
* A negative port stands for the default of the protocol, with or without SSL.
* Trust in all certificates needs SSL or TLS, and a password needs a login, beside which one that
  is left out is blank. -/
def account (request : Request) : Account where
  id := none
  protocol := some (Scheme.protocol request.protocol)
  address := some (String.ofList (Host.bare (Text.trim request.host.toList)))
  port :=
    if 0 ≤ request.port then request.port
    else
      ConnectionString.inferredPort (Scheme.protocol request.protocol)
        (request.protection = some .ssl)
  flags :=
    { mode :=
        { ssl := request.protection = some .ssl
          tls := request.protection = some .tls
          trustAll := request.trustAll && request.protection.isSome }
      authenticate := request.login.isSome
      unnamed := 0 }
  login := request.login.map Text.trimString
  password := request.login.map fun _ => request.password.getD ""
  domain := request.domain

/-! ## Requests that are read -/

/-- Something is left of every value. -/
def Whole (fields : EncodeFields) : Prop :=
  ∀ value ∈ [fields.protocol, fields.host, fields.port, fields.login, fields.password,
    fields.domain], value ≠ .list []

theorem exists_protection (ssl tls trustAll : Bool) : ∃ protection : Option Protection,
    (⟨ssl, tls && !ssl, trustAll⟩ : SecurityMode) =
      ⟨protection = some .ssl, protection = some .tls, trustAll⟩ := by
  cases ssl with
  | true => exact ⟨some .ssl, by cases tls <;> rfl⟩
  | false =>
    cases tls with
    | true => exact ⟨some .tls, rfl⟩
    | false => exact ⟨none, rfl⟩

/-- What is read from a command line is a request, if something is left of every value. -/
theorem exists_fields_eq {arguments : List String} {fields : EncodeFields} {verbose : Bool}
    (hread : Command.read unknownPort arguments = .ok (.encode fields, verbose))
    (hwhole : Whole fields) : ∃ request : Request, request.fields = fields := by
  obtain ⟨reading, hsound, hmissing, rfl⟩ := exists_reading_of_read_encode hread
  simp only [Whole, encodeFields, List.forall_mem_cons, List.not_mem_nil, false_implies,
    implies_true, and_true] at hwhole
  obtain ⟨hprotocol, hhost, hport, hlogin, hpassword, hdomain⟩ := hwhole
  obtain ⟨protocol, hprotocol⟩ :=
    exists_required_text hsound hmissing "--protocol" (by decide) hprotocol
  obtain ⟨host, hhost⟩ := exists_required_text hsound hmissing "--host" (by decide) hhost
  obtain ⟨port, hport⟩ := exists_number hsound hport
  obtain ⟨login, hlogin⟩ := exists_optional_text hsound "--login" (by decide) hlogin
  obtain ⟨password, hpassword⟩ := exists_optional_text hsound "--password" (by decide) hpassword
  obtain ⟨domain, hdomain⟩ := exists_optional_text hsound "--domain" (by decide) hdomain
  obtain ⟨protection, hmode⟩ :=
    exists_protection (reading.has "--ssl") (reading.has "--tls") (reading.has "--trust-all")
  refine ⟨⟨protocol, host, port, protection, reading.has "--trust-all", login, password, domain⟩,
    ?_⟩
  simp only [fields, mode, encodeFields, hmode, hprotocol, hhost, hport, hlogin, hpassword, hdomain]

/-! ## The account that is built -/

/-- The account that the command builds. -/
def stored (request : Request) : Account where
  id := none
  protocol := some (Scheme.protocol request.protocol)
  address := some request.host
  port := Account.resolvePort (Scheme.protocol request.protocol) request.mode.ssl request.port
  flags := ⟨request.mode, request.login.isSome, 0⟩
  login := request.login
  password := request.login.bind fun _ => request.password
  domain := request.domain

/-- No field of a request is refused. -/
theorem connected_complete (request : Request) :
    request.fields.connected >>= request.fields.complete = .ok request.stored := by
  obtain ⟨protocol, host, port, protection, trustAll, login, password, domain⟩ := request
  cases login <;> cases password <;> cases domain <;> rfl

variable {request : Request}

theorem resolvePort_eq (protocol : String) (ssl : Bool) (port : Int) :
    Account.resolvePort protocol ssl port =
      if port = unknownPort then ConnectionString.inferredPort protocol ssl else port := rfl

theorem normalMode_mode (request : Request) :
    Scheme.normalMode request.mode = request.account.flags.mode := by
  obtain ⟨_, _, _, protection, trustAll, _, _, _⟩ := request
  rcases protection with _ | _ | _ <;> cases trustAll <;> rfl

/-- **The two times at which a port is inferred agree.** -/
theorem port_normal (request : Request) :
    request.stored.normal.port = request.account.port := by
  have hssl : (Scheme.normalMode request.mode).ssl = request.mode.ssl := by
    rw [normalMode_mode]
    rfl
  simp only [Account.normal, stored, account, Option.getD_some, hssl, resolvePort_eq]
  by_cases hunknown : request.port = unknownPort
  · -- it was inferred when the account was built, and is inferred again if that found nothing
    have hnegative : ¬ 0 ≤ request.port := by
      rw [hunknown]
      decide
    rw [if_pos hunknown, if_neg hnegative]
    split <;> rfl
  · rw [if_neg hunknown]
    rfl

theorem normal_stored (request : Request) : request.stored.normal = request.account := by
  have hmode := normalMode_mode request
  have hport := port_normal request
  obtain ⟨_, _, _, _, _, login, _, _⟩ := request
  simp only [Account.normal, stored, account, Option.map_some, Option.getD_some, hmode,
    Account.mk.injEq, true_and, and_true] at hport ⊢
  refine ⟨hport, ?_, ?_⟩
  · cases login <;> rfl
  · cases login <;> rfl

theorem port_stored_lt (h : request.port < Text.numeralBound Text.maxNumeralLength) :
    request.stored.port < Text.numeralBound Text.maxNumeralLength := by
  simp only [stored, resolvePort_eq]
  split
  · have hthousand : ((1000 : Nat) : Int) < Text.numeralBound Text.maxNumeralLength :=
      Text.lt_numeralBound (k := 4) (by decide) (by decide)
    exact Int.lt_trans (ConnectionString.inferredPort_lt _ _) hthousand
  · exact h

/-! ## Answers -/

/-- The notes that are shown before the answer to a request. -/
def notes (request : Request) (verbose : Bool) : String :=
  String.join (List.map Note.line (if verbose then request.fields.notes else []))

/-- The outcome of the command `encode` for a request: a connection string is printed that is
read as the account that is meant, or nothing is printed and there is one complaint, which is
about a component and is that of writing the account. -/
inductive Answers (request : Request) (verbose : Bool) : Outcome → Prop
  | written {t : String} (hencode : request.stored.encode = .ok t)
      (hdecode : ConnectionString.decode t = .ok request.account) :
      Answers request verbose ⟨.status 0, t ++ "\n", request.notes verbose⟩
  | refused {error : EncodeError} {shown reason : String}
      (hencode : request.stored.encode = .error error)
      (hmessage : error.message =
        "Invalid " ++ error.component.name ++ " " ++ shown ++ ": " ++ reason) :
      Answers request verbose
        ⟨.status 1, "", request.notes verbose ++ ("Error: " ++ error.message) ++ "\n"⟩

theorem decode_of_encode_stored (hhost : '%' ∉ request.host.toList)
    (hport : request.port < Text.numeralBound Text.maxNumeralLength) {t : String}
    (hencode : request.stored.encode = .ok t) :
    ConnectionString.decode t = .ok request.account := by
  have hprotocol : ∀ protocol, request.stored.protocol = some protocol →
      '+' ∉ protocol.toList := by
    rintro protocol ⟨⟩
    exact Scheme.plus_not_mem_protocol request.protocol
  have hzone : request.stored.zone? = none := by
    apply Account.zone?_of_percent_not_mem
    rintro address ⟨⟩
    exact hhost
  obtain ⟨r, hlegal, htext, hlength, haccount⟩ :=
    ConnectionString.exists_reading_of_encode hencode hprotocol (by simp [hzone])
      (port_stored_lt hport)
  rw [ConnectionString.Reading.decode_eq_account hlegal htext hlength, haccount, normal_stored]

theorem encodeReport_fields (request : Request) (verbose : Bool) :
    encodeReport verbose request.fields =
      ⟨if verbose then request.fields.notes else [],
        match request.stored.encode with
        | .ok s => .printed (s ++ "\n")
        | .error error => .error error.message⟩ := by
  have hstored := connected_complete request
  unfold encodeReport
  cases hconnected : request.fields.connected with
  | error cause => simp [hconnected, bind, Except.bind] at hstored
  | ok connected =>
    rw [hconnected] at hstored
    have hcomplete : request.fields.complete connected = .ok request.stored := hstored
    simp only [hcomplete]
    cases request.stored.encode <;> rfl

theorem answers_encodeReport (hhost : '%' ∉ request.host.toList)
    (hport : request.port < Text.numeralBound Text.maxNumeralLength) (verbose : Bool) :
    request.Answers verbose (encodeReport verbose request.fields).outcome := by
  rw [encodeReport_fields]
  cases hencode : request.stored.encode with
  | ok t => exact .written hencode (decode_of_encode_stored hhost hport hencode)
  | error error =>
    obtain ⟨shown, reason, hmessage⟩ := error.exists_message
    exact .refused hencode hmessage

/-- **`encode` says what it is asked for.**  For every request whose host has no percent sign and
whose port can be written, the string that is printed is read as the account that is meant, and if
nothing is printed, the command ends with status 1 and one complaint about a component.  What a
command line asks for is a request, if something is left of every value, and the run ends as the
command does. -/
theorem answers_encode (environment : Environment) (files : Files) :
    (∀ request : Request, '%' ∉ request.host.toList →
      request.port < Text.numeralBound Text.maxNumeralLength → ∀ verbose,
        request.Answers verbose
          ((Command.encode request.fields).report environment files verbose).outcome) ∧
    ∀ arguments fields verbose,
      Command.read unknownPort arguments = .ok (.encode fields, verbose) → Whole fields →
        ∃ request : Request, request.fields = fields ∧
          ('%' ∉ request.host.toList →
            request.port < Text.numeralBound Text.maxNumeralLength →
              request.Answers verbose (run arguments environment files)) := by
  refine ⟨fun request hhost hport => answers_encodeReport hhost hport, ?_⟩
  intro arguments fields verbose hread hwhole
  obtain ⟨request, rfl⟩ := exists_fields_eq hread hwhole
  refine ⟨request, rfl, fun hhost hport => ?_⟩
  rw [run, hread]
  exact answers_encodeReport hhost hport verbose

/-- A request with something to be put right in almost every part. -/
def untidy : Request where
  protocol := "imap+ssl"
  host := " [::1] "
  port := -5
  protection := some .tls
  trustAll := true
  login := some " alice "
  password := none
  domain := some "a/b"

/-- The words of the request. -/
def untidyWords : List String :=
  ["-v", "encode", "--protocol", "imap+ssl", "--host", " [::1] ", "--port", "-5", "--tls",
    "--trust-all", "--login", " alice ", "--domain", "a/b"]

theorem answers_encode_untidy :
    ('%' ∉ untidy.host.toList ∧ untidy.port < Text.numeralBound Text.maxNumeralLength) ∧
    untidy.Answers true
      ((Command.encode untidy.fields).report [] (FileTree.mk ⟨"/", []⟩ []).files true).outcome ∧
    (Command.read unknownPort untidyWords = .ok (.encode untidy.fields, true) ∧
      Whole untidy.fields) ∧
    ∃ request : Request, request.fields = untidy.fields ∧
      request.Answers true (run untidyWords [] (FileTree.mk ⟨"/", []⟩ []).files) := by
  have hhost : '%' ∉ untidy.host.toList := by decide
  have hport : untidy.port < Text.numeralBound Text.maxNumeralLength :=
    Int.lt_of_lt_of_le (by decide) (Int.natCast_nonneg _)
  have hread : Command.read unknownPort untidyWords = .ok (.encode untidy.fields, true) := rfl
  have hwhole : Whole untidy.fields := by
    simp [Whole, fields, untidy, Account.textValue]
  obtain ⟨hrequests, hruns⟩ := answers_encode [] (FileTree.mk ⟨"/", []⟩ []).files
  obtain ⟨request, hfields, hanswers⟩ := hruns untidyWords untidy.fields true hread hwhole
  have hsame : request.host = untidy.host :=
    Value.text.inj (congrArg EncodeFields.host hfields)
  have hnumber : request.port = untidy.port :=
    Value.int.inj (congrArg EncodeFields.port hfields)
  refine ⟨⟨hhost, hport⟩, hrequests untidy hhost hport true, ⟨hread, hwhole⟩, request, hfields,
    hanswers ?_ ?_⟩
  · rwa [hsame]
  · rwa [hnumber]

end Request

end MailConnection.Console
