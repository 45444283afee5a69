import MailConnection.Text.Numeral

/-!
# Moments

Dates and moments of time in documents: `2024-05-01`, `2024-05-01 10:30:00.5 +02:00`.
The form of such a text (`MomentForm`) is separate from the question whether there
is such a day and time (`MomentForm.check`).
-/

namespace MailConnection.Yaml

/-! ## Errors -/

/-- Why there is no moment with some numbers.  The offset from universal time is
given in seconds. -/
inductive MomentError where
  | year (n : Nat)
  | month
  | day
  | hour
  | minute
  | second
  | offset (seconds : Int)
deriving DecidableEq, Repr

/-- A span of time as days and seconds, as it is shown in a message. -/
def spanText (seconds : Int) : String :=
  let days := seconds / 86400
  let rest := seconds % 86400
  let parts := (if days = 0 then [] else ["days=" ++ toString days]) ++
    (if rest = 0 then [] else ["seconds=" ++ toString rest])
  "datetime.timedelta(" ++ (if parts = [] then "0" else ", ".intercalate parts) ++ ")"

/-- The words for an error. -/
def MomentError.message : MomentError → String
  | .year n => "year " ++ toString n ++ " is out of range"
  | .month => "month must be in 1..12"
  | .day => "day is out of range for month"
  | .hour => "hour must be in 0..23"
  | .minute => "minute must be in 0..59"
  | .second => "second must be in 0..59"
  | .offset seconds =>
    "offset must be a timedelta strictly between -timedelta(hours=24) and " ++
      "timedelta(hours=24), not " ++ spanText seconds ++ "."

/-! ## The form -/

/-- A time of day.  `fraction` holds the digits after the point. -/
structure ClockForm where
  hour : List Char
  minute : List Char
  second : List Char
  fraction : List Char
  offset : Option Int
deriving DecidableEq, Repr

/-- A date and possibly a time of day, each number as the digits that name it. -/
structure MomentForm where
  year : List Char
  month : List Char
  day : List Char
  clock : Option ClockForm
deriving DecidableEq, Repr

/-- At least `least` and at most two digits, and the rest. -/
private def takeDigits? (least : Nat) (cs : List Char) : Option (List Char × List Char) :=
  let digits := (cs.take 2).takeWhile Char.isDigit
  if digits.length < least then none else some (digits, cs.drop digits.length)

/-- The rest of a text after a character that it starts with. -/
private def afterChar? (c : Char) : List Char → Option (List Char)
  | [] => none
  | d :: rest => if d = c then some rest else none

/-- The offset from universal time, in seconds, that ends a time of day. -/
private def readOffset? (cs : List Char) : Option (Option Int) :=
  if cs = [] then some none
  else
    match cs.dropWhile (fun c => c == ' ' || c == '\t') with
    | ['Z'] => some (some 0)
    | sign :: rest => do
      if sign ≠ '+' ∧ sign ≠ '-' then none
      let (hours, rest) ← takeDigits? 1 rest
      let minutes ← if rest = [] then some [] else do
        let (minutes, rest) ← takeDigits? 2 (← afterChar? ':' rest)
        if rest = [] then some minutes else none
      let seconds : Int := Text.numeralValue hours * 3600 + Text.numeralValue minutes * 60
      return some (if sign = '-' then -seconds else seconds)
    | [] => none

/-- The time of day that ends a text. -/
private def readClock? (cs : List Char) : Option ClockForm := do
  let (hour, rest) ← takeDigits? 1 cs
  let (minute, rest) ← takeDigits? 2 (← afterChar? ':' rest)
  let (second, rest) ← takeDigits? 2 (← afterChar? ':' rest)
  let (fraction, rest) := match afterChar? '.' rest with
    | some digits => (digits.takeWhile Char.isDigit, digits.dropWhile Char.isDigit)
    | none => ([], rest)
  let offset ← readOffset? rest
  return ⟨hour, minute, second, fraction, offset⟩

/-- The moment that a text has the form of. -/
def MomentForm.read? (cs : List Char) : Option MomentForm := do
  let year := cs.take 4
  if year.length ≠ 4 ∨ !year.all Char.isDigit then none
  let (month, rest) ← takeDigits? 1 (← afterChar? '-' (cs.drop 4))
  let (day, rest) ← takeDigits? 1 (← afterChar? '-' rest)
  match rest with
  | [] => some ⟨year, month, day, none⟩
  | c :: rest =>
    let clock ←
      if c = 'T' ∨ c = 't' then readClock? rest
      else if c = ' ' ∨ c = '\t' then
        readClock? (rest.dropWhile fun c => c == ' ' || c == '\t')
      else none
    return ⟨year, month, day, some clock⟩

/-- Whether a moment is written out so far that a plain text is taken for it: a mere
date has to have two digits for month and day. -/
def MomentForm.isComplete (form : MomentForm) : Bool :=
  form.clock.isSome || (form.month.length == 2 && form.day.length == 2)

/-! ## The calendar -/

/-- Whether a year has a leap day. -/
def isLeapYear (year : Nat) : Bool := year % 4 == 0 && (year % 100 != 0 || year % 400 == 0)

/-- The number of days of a month. -/
def daysInMonth (year month : Nat) : Nat :=
  if month = 2 then (if isLeapYear year then 29 else 28)
  else if month = 4 ∨ month = 6 ∨ month = 9 ∨ month = 11 then 30
  else 31

/-- Check that there is such a day. -/
private def checkDate (year month day : Nat) : Except MomentError Unit :=
  if year = 0 then .error (.year year)
  else if month < 1 ∨ 12 < month then .error .month
  else if day < 1 ∨ daysInMonth year month < day then .error .day
  else .ok ()

/-- Check that there is such a time of day. -/
private def checkClock (hour minute second : Nat) : Except MomentError Unit :=
  if 23 < hour then .error .hour
  else if 59 < minute then .error .minute
  else if 59 < second then .error .second
  else .ok ()

/-- A number with leading zeros up to a width. -/
private def padded (width n : Nat) : String :=
  let digits := Text.numeral n
  String.ofList (List.replicate (width - digits.length) '0' ++ digits)

/-- An offset from universal time as text. -/
private def offsetText (seconds : Int) : String :=
  let minutes := seconds.natAbs / 60
  (if seconds < 0 then "-" else "+") ++ padded 2 (minutes / 60) ++ ":" ++ padded 2 (minutes % 60)

/-- The moment of a form in one notation, or why there is none. -/
def MomentForm.check (form : MomentForm) : Except MomentError String := do
  let year := Text.numeralValue form.year
  let month := Text.numeralValue form.month
  let day := Text.numeralValue form.day
  let date := padded 4 year ++ "-" ++ padded 2 month ++ "-" ++ padded 2 day
  match form.clock with
  | none =>
    checkDate year month day
    return date
  | some clock =>
    match clock.offset with
    | some seconds => if 86400 ≤ seconds.natAbs then throw (.offset seconds)
    | none => pure ()
    checkDate year month day
    let hour := Text.numeralValue clock.hour
    let minute := Text.numeralValue clock.minute
    let second := Text.numeralValue clock.second
    checkClock hour minute second
    let fraction := (clock.fraction ++ List.replicate 6 '0').take 6
    return date ++ " " ++ padded 2 hour ++ ":" ++ padded 2 minute ++ ":" ++ padded 2 second ++
      "." ++ String.ofList fraction ++ clock.offset.elim "" offsetText

end MailConnection.Yaml
