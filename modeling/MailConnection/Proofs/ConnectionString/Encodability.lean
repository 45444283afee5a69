import MailConnection.Proofs.Account.Storage
import MailConnection.Proofs.ConnectionString.Acceptance

/-!
# Encodability

Whether an account has a connection string, and what is said when it has none, depends on
where the connection leads: on protocol, address and the user's bits of the flag word
(`Account.SameTarget`).  Row identity, port, credentials, domain and all other bits play no
part, neither in the error nor in what is shown of a password.

`Account.encode` has no other way to fail than to refuse a component, and so it says nothing
about whether the writing can break off for another reason.  `Account.write` writes with two
such reasons: the first character of the last label is asked for by its place, and a number
is written only if its numeral is not too long.  The place is always there, because every
label was checked before (`exists_topInitial`); and so `write` is `encode` for all accounts
whose port can be written (`write_eq`).
-/

namespace MailConnection

/-! ## Writing that may break off -/

/-- Why nothing was written: a component was refused, a place was asked for that a list does
not have, or a numeral is too long. -/
inductive WriteFailure where
  | invalid (error : EncodeError)
  | outOfRange
  | numeralTooLong
deriving DecidableEq, Repr

namespace ConnectionString

/-- The first character of the last label, if there are such places. -/
def topInitial? (labels : List (List Char)) : Option Char := labels.getLast?.bind List.head?

/-- A trimmed address as it stands in a connection string, the last of its labels looked at
by its place. -/
def writeTrimmed (trimmed : List Char) : Except WriteFailure (List Char) :=
  let refuse (defect : Host.Defect) : Except WriteFailure (List Char) :=
    .error (.invalid (.addressIllegal (String.ofList trimmed) defect))
  if trimmed = [] then .ok []
  else if ':' ∈ trimmed then
    if Host.Ipv6.isAddress (Host.unbracket trimmed) then
      .ok (Host.Form.literal (Host.unbracket trimmed)).render
    else refuse .literal
  else if Host.Ipv4.isAddress trimmed then .ok trimmed
  else if !(Host.labels trimmed).all Host.isLabel then refuse .name
  else if (Host.labels trimmed).length ≤ 1 then .ok trimmed
  else
    match topInitial? (Host.labels trimmed) with
    | none => .error .outOfRange
    | some initial => if initial.isAlpha then .ok trimmed else refuse .topLabel

/-- Whether a number has a numeral that is not too long. -/
def hasNumeral (n : Int) : Bool := n.natAbs < Text.numeralBound Text.maxNumeralLength

/-- The port after the host, unless it is negative. -/
def writePortNumeral (port : Int) : Except WriteFailure (List Char) :=
  if port < 0 ∨ hasNumeral port then .ok (writePort port) else .error .numeralTooLong

end ConnectionString

namespace Account

open ConnectionString

/-- The connection string for an account. -/
def write (account : Account) : Except WriteFailure String := do
  let scheme ← (writeScheme account).mapError .invalid
  let host ← match account.address with
    | none => .error (.invalid .addressMissing)
    | some address => writeTrimmed (Text.trim address.toList)
  let port ← writePortNumeral account.port
  return String.ofList <|
    scheme ++ ':' :: '/' :: '/' ::
      (writeCredentials account.credentials? ++ (host ++ (port ++ writeDomain account.domain)))

/-- The connection string for an account, or none if a component is refused.  Nothing else is
made up for. -/
def tryWrite (account : Account) : Except WriteFailure (Option String) :=
  match account.write with
  | .ok t => .ok (some t)
  | .error (.invalid _) => .ok none
  | .error failure => .error failure

/-- An account as text: its connection string, or the record when there is none.  The record
holds the numerals of the row identity, the port and the flag word. -/
def writeText (account : Account) : Except WriteFailure String := do
  match ← account.tryWrite with
  | some t => return t
  | none =>
    if [account.id.getD 0, account.port, account.flags.word].all hasNumeral then
      return account.display
    else .error .numeralTooLong

end Account

/-! ## The place of the last label -/

namespace ConnectionString

/-- **Labels that were checked have a first character,** the last one like all others. -/
theorem exists_topInitial {labels : List (List Char)} (hne : labels ≠ [])
    (h : labels.all Host.isLabel = true) : ∃ initial, topInitial? labels = some initial := by
  obtain ⟨init, top, rfl⟩ := List.eq_nil_or_concat labels |>.resolve_left hne
  have htop : Text.UpToFeed Host.Label top :=
    Host.isLabel_iff.mp (List.all_eq_true.mp h top (by simp))
  obtain ⟨initial, rest, rfl⟩ := List.exists_cons_of_ne_nil (Host.ne_nil_of_upToFeed htop)
  exact ⟨initial, by simp [topInitial?]⟩

theorem hasLetterOnTop_eq {labels : List (List Char)} {initial : Char}
    (hseveral : ¬ labels.length ≤ 1) (h : topInitial? labels = some initial) :
    Host.hasLetterOnTop labels = initial.isAlpha := by
  obtain ⟨top, htop, hhead⟩ := Option.bind_eq_some_iff.mp h
  simp [Host.hasLetterOnTop, hseveral, List.getLastD_eq_getLast?, htop, hhead]

/-- **The place is always there:** looking at it gives what `Host.classify` says. -/
theorem writeTrimmed_eq (trimmed : List Char) :
    writeTrimmed trimmed =
      match Host.classify trimmed with
      | .ok form => .ok form.render
      | .error defect => .error (.invalid (.addressIllegal (String.ofList trimmed) defect)) := by
  unfold writeTrimmed Host.classify
  by_cases hempty : trimmed = []
  · simp [hempty, Host.Form.render]
  by_cases hcolon : ':' ∈ trimmed
  · by_cases haddress : Host.Ipv6.isAddress (Host.unbracket trimmed) = true
    · simp [hempty, hcolon, haddress]
    · simp [hempty, hcolon, haddress]
  by_cases hquad : Host.Ipv4.isAddress trimmed = true
  · simp [hempty, hcolon, hquad, Host.Form.render]
  by_cases hlabels : (Host.labels trimmed).all Host.isLabel = true
  · by_cases hone : (Host.labels trimmed).length ≤ 1
    · simp [hempty, hcolon, hquad, hlabels, hone, Host.hasLetterOnTop, Host.Form.render]
    · have hne : Host.labels trimmed ≠ [] := Text.segments_ne_nil '.' _
      obtain ⟨initial, hinitial⟩ := exists_topInitial hne hlabels
      rw [hasLetterOnTop_eq hone hinitial]
      cases hletter : initial.isAlpha <;>
        simp [hempty, hcolon, hquad, hlabels, hone, hinitial, hletter, Host.Form.render]
  · simp [hempty, hcolon, hquad, hlabels]

/-! ## Numerals and bits -/

theorem writePortNumeral_eq {port : Int} (h : port < Text.numeralBound Text.maxNumeralLength) :
    writePortNumeral port = .ok (writePort port) := by
  refine if_pos ?_
  by_cases hnegative : port < 0
  · exact .inl hnegative
  · refine .inr (decide_eq_true ?_)
    omega

end ConnectionString

/-- The user's bits of a word make up the security mode. -/
theorem Flags.mode_eq_of_land {f g : Flags}
    (h : Int.land f.word userMask = Int.land g.word userMask) : f.mode = g.mode := by
  have hbit (i : Nat) (hi : userMask.testBit i = true) : f.word.testBit i = g.word.testBit i := by
    have hmasked := congrArg (Int.testBit · i) h
    simp only [Int.testBit_land, hi, Bool.and_true] at hmasked
    exact hmasked
  have hssl := hbit 0 rfl
  have htls := hbit 1 rfl
  have htrustAll := hbit 3 rfl
  rw [testBit_word, testBit_word] at hssl htls htrustAll
  obtain ⟨⟨ssl, tls, trustAll⟩, _, _⟩ := f
  exact SecurityMode.mk.injEq .. ▸ ⟨hssl, htls, htrustAll⟩

/-! ## The whole string -/

namespace Account

open ConnectionString

variable {account : Account}

/-- **Writing breaks off for no reason but a refused component,** if the numeral of the port is
not too long. -/
theorem write_eq (h : account.port < Text.numeralBound Text.maxNumeralLength) :
    account.write = account.encode.mapError .invalid := by
  rw [write, encode_eq, writePortNumeral_eq h]
  cases writeScheme account with
  | error error => rfl
  | ok scheme =>
    cases haddress : account.address with
    | none => simp [writeHost, haddress, Except.mapError, bind, Except.bind]
    | some address =>
      simp only [writeHost, haddress, writeTrimmed_eq]
      cases Host.classify (Text.trim address.toList) with
      | error defect => rfl
      | ok form => rfl

theorem tryWrite_eq (h : account.port < Text.numeralBound Text.maxNumeralLength) :
    account.tryWrite = .ok account.encode? := by
  rw [tryWrite, write_eq h, encode?]
  cases account.encode <;> rfl

/-- There is no string exactly if writing fails. -/
theorem tryWrite_none_iff (h : account.port < Text.numeralBound Text.maxNumeralLength) :
    account.tryWrite = .ok none ↔ ∃ failure, account.write = .error failure := by
  rw [tryWrite_eq h, write_eq h, encode?]
  cases account.encode <;> simp [Except.mapError, Except.toOption]

theorem writeText_eq (h : account.port < Text.numeralBound Text.maxNumeralLength) {t : String}
    (ht : account.writeText = .ok t) : t = account.text := by
  rw [writeText, tryWrite_eq h] at ht
  rw [text]
  cases hencode : account.encode? with
  | some t' =>
    rw [hencode] at ht
    exact (Except.ok.inj ht).symm
  | none =>
    simp only [hencode, bind, Except.bind] at ht
    split at ht
    · exact (Except.ok.inj ht).symm
    · simp at ht

/-! ## Two accounts -/

/-- Agreement on where the connection leads: on protocol, address and the user's bits. -/
structure SameTarget (a b : Account) : Prop where
  protocol : a.protocol = b.protocol
  address : a.address = b.address
  flags : Int.land a.flags.word userMask = Int.land b.flags.word userMask

/-- The account with another password. -/
def withPassword (account : Account) (password : String) : Account :=
  { account with password := some password }

theorem sameTarget_withPassword (account : Account) (password : String) :
    account.SameTarget (account.withPassword password) := ⟨rfl, rfl, rfl⟩

theorem encode_error_iff {error : EncodeError} :
    account.encode = .error error ↔
      writeScheme account = .error error ∨
        (∃ scheme, writeScheme account = .ok scheme) ∧ writeHost account = .error error := by
  rw [encode_eq]
  cases writeScheme account with
  | error other => simp
  | ok scheme => cases writeHost account <;> simp

theorem encode_error_congr {a b : Account} (h : a.SameTarget b) (error : EncodeError) :
    a.encode = .error error ↔ b.encode = .error error := by
  have hscheme : writeScheme a = writeScheme b := by
    simp only [writeScheme, h.protocol, Flags.mode_eq_of_land h.flags]
  have hhost : writeHost a = writeHost b := by
    simp only [writeHost, h.address]
  rw [encode_error_iff, encode_error_iff, hscheme, hhost]

/-- No outcome of `write` but the errors of `encode` is a failure. -/
theorem write_error_iff (h : account.port < Text.numeralBound Text.maxNumeralLength)
    {failure : WriteFailure} :
    account.write = .error failure ↔
      ∃ error, failure = .invalid error ∧ account.encode = .error error := by
  rw [write_eq h]
  cases account.encode with
  | ok t => simp [Except.mapError]
  | error error => simp [Except.mapError, eq_comm]

theorem tryWrite_none_of_sameTarget {other : Account} (htarget : account.SameTarget other)
    {error : EncodeError} (herror : account.encode = .error error)
    (h : other.port < Text.numeralBound Text.maxNumeralLength) : other.tryWrite = .ok none := by
  rw [tryWrite_eq h, encode?, (encode_error_congr htarget error).mp herror]
  rfl

/-- Of a password that is not blank, the record shows nothing. -/
theorem display_password {p q : String} (hp : p ≠ "") (hq : q ≠ "") :
    (account.withPassword p).display = (account.withPassword q).display := by
  have hmasked : maskedPassword (some p) = maskedPassword (some q) := by
    rw [maskedPassword, maskedPassword, if_neg hp, if_neg hq]
  unfold display withPassword
  rw [hmasked]

/-- Nor does the text of an account that cannot be written. -/
theorem writeText_password (h : account.port < Text.numeralBound Text.maxNumeralLength)
    (hrefused : ∃ failure, account.write = .error failure) {p q : String} (hp : p ≠ "")
    (hq : q ≠ "") :
    (account.withPassword p).writeText = (account.withPassword q).writeText := by
  obtain ⟨failure, hfailure⟩ := hrefused
  obtain ⟨error, _, herror⟩ := (write_error_iff h).mp hfailure
  -- the password is no part of the target, and so the account is refused with any
  have hnone (s : String) : (account.withPassword s).tryWrite = .ok none :=
    tryWrite_none_of_sameTarget (sameTarget_withPassword account s) herror h
  rw [writeText, writeText, hnone p, hnone q, display_password hp hq]
  rfl

/-- **Whether an account can be written depends on where the connection leads.**  Two accounts
that agree on it fail together and for the same reason; the reason is a refused component and
nothing else; an account for which there is no string is one that is refused, and as text it
shows nothing of a password that is not blank.  What is written is what the functions without
other failures give. -/
theorem encodability_of_sameTarget {a b : Account} (h : a.SameTarget b)
    (ha : a.port < Text.numeralBound Text.maxNumeralLength)
    (hb : b.port < Text.numeralBound Text.maxNumeralLength) :
    (∀ failure, a.write = .error failure ↔ b.write = .error failure) ∧
      (∀ failure, a.write = .error failure → ∃ error, failure = .invalid error) ∧
      (a.tryWrite = .ok none ↔ ∃ failure, a.write = .error failure) ∧
      ((∃ failure, a.write = .error failure) → ∀ p q : String, p ≠ "" → q ≠ "" →
        (a.withPassword p).writeText = (a.withPassword q).writeText) ∧
      a.write = a.encode.mapError .invalid ∧ a.tryWrite = .ok a.encode? ∧
      ∀ t, a.writeText = .ok t → t = a.text := by
  refine ⟨?_, ?_, tryWrite_none_iff ha, ?_, write_eq ha, tryWrite_eq ha, fun t => writeText_eq ha⟩
  · intro failure
    rw [write_error_iff ha, write_error_iff hb]
    exact exists_congr fun error => and_congr_right fun _ => encode_error_congr h error
  · intro failure hfailure
    obtain ⟨error, hinvalid, _⟩ := (write_error_iff ha).mp hfailure
    exact ⟨error, hinvalid⟩
  · intro hrefused p q hp hq
    exact writeText_password ha hrefused hp hq

/-- An account for an address that is made of dots. -/
def dots : Account := { empty with protocol := some "imap", address := some " ... " }

/-- The same address, and all else different. -/
def otherDots : Account where
  id := some 7
  protocol := some "imap"
  address := some " ... "
  port := 993
  flags := ⟨SecurityMode.none, true, 5⟩
  login := some "alice"
  password := some "secret"
  domain := some "INBOX"

theorem encodability_of_sameTarget_dots :
    dots.SameTarget otherDots ∧
      (dots.port < Text.numeralBound Text.maxNumeralLength ∧
        otherDots.port < Text.numeralBound Text.maxNumeralLength) ∧
      dots.write = .error (.invalid (.addressIllegal "..." .name)) ∧
      otherDots.write = .error (.invalid (.addressIllegal "..." .name)) ∧
      dots.tryWrite = .ok none ∧
      (dots.withPassword "p").writeText = (dots.withPassword "q").writeText := by
  have htarget : dots.SameTarget otherDots := ⟨rfl, rfl, rfl⟩
  have hdots : dots.port < Text.numeralBound Text.maxNumeralLength :=
    Int.lt_of_lt_of_le (by decide) (Int.natCast_nonneg _)
  have hother : otherDots.port < Text.numeralBound Text.maxNumeralLength :=
    Text.lt_numeralBound (n := 993) (k := 3) (by decide) (by decide)
  have hrefused : dots.write = .error (.invalid (.addressIllegal "..." .name)) := rfl
  obtain ⟨hfailure, -, hnone, hpassword, -⟩ := encodability_of_sameTarget htarget hdots hother
  exact ⟨htarget, ⟨hdots, hother⟩, hrefused, (hfailure _).mp hrefused,
    hnone.mpr ⟨_, hrefused⟩, hpassword ⟨_, hrefused⟩ "p" "q" (by decide) (by decide)⟩

end Account

end MailConnection
