import MailConnection.Text.Blank
import MailConnection.Text.Digit
import MailConnection.Text.Numeral
import MailConnection.Text.Quoted

/-!
# Whole numbers written by people

`readInteger` reads a whole number in base 2, 8, 10 or 16.  It allows blanks at the
ends, a sign, digits of any script, single low lines between digits, and in the
bases other than ten the usual mark of the base.  A decimal number may have at
most `maxNumeralLength` digits.
-/

namespace MailConnection.Text

/-- Why a text is not read as a whole number. -/
inductive IntegerError where
  | form (base : Nat) (text : String)
  | tooLong (digits : Nat)
deriving DecidableEq, Repr

/-- The greatest length at which a text is shown in a message. -/
def maxShownLength : Nat := 200

/-- The words for an error; a long text is cut short. -/
def IntegerError.message : IntegerError → String
  | .form base text =>
    "invalid literal for int() with base " ++ toString base ++ ": " ++
      String.ofList ((quoted text.toList).take maxShownLength)
  | .tooLong digits => tooLongMessage digits

/-! ## Digits -/

/-- The value of a digit in a base. -/
def digitValue? (base : Nat) (c : Char) : Option Nat :=
  let value? := if c.toNat < 0x80 then hexValue? c else decimalValue? c
  value?.filter (· < base)

/-- The values of the digits of a numeral in which single low lines may stand
between digits. -/
def digitValues? (base : Nat) : List Char → Option (List Nat)
  | [] => none
  | [c] => (digitValue? base c).map fun n => [n]
  | c :: '_' :: rest => do
    let n ← digitValue? base c
    return n :: (← digitValues? base rest)
  | c :: rest => do
    let n ← digitValue? base c
    return n :: (← digitValues? base rest)

/-- The number with these digits. -/
def ofDigitValues (base : Nat) (digits : List Nat) : Nat :=
  digits.foldl (fun n digit => n * base + digit) 0

/-! ## Numbers -/

/-- The letter that marks numerals of a base after a zero. -/
def baseMark? : Nat → Option Char
  | 2 => some 'b'
  | 8 => some 'o'
  | 16 => some 'x'
  | _ => none

/-- The numeral without the mark of its base. -/
def dropBaseMark (base : Nat) (cs : List Char) : List Char :=
  match cs with
  | '0' :: mark :: rest =>
    if some mark.toLower = baseMark? base then
      match rest with
      | '_' :: digits => digits
      | digits => digits
    else cs
  | _ => cs

/-- A sign at the start of a numeral, and the rest. -/
def splitSign : List Char → Bool × List Char
  | '-' :: rest => (true, rest)
  | '+' :: rest => (false, rest)
  | rest => (false, rest)

/-- Whether a character belongs to the digits of a numeral. -/
private def isDigitPart (base : Nat) (c : Char) : Bool :=
  c == '_' || (digitValue? base c).isSome

/-- The whole number that a text names in a base.  That a decimal number has too many
digits is noticed before what follows them. -/
def readInteger (base : Nat) (text : String) : Except IntegerError Int :=
  let (negative, body) := splitSign (trimBy isSpace text.toList)
  let numeral := dropBaseMark base body
  match digitValues? base (numeral.takeWhile (isDigitPart base)) with
  | none => .error (.form base text)
  | some digits =>
    if base = 10 ∧ maxNumeralLength < digits.length then .error (.tooLong digits.length)
    else if !numeral.all (isDigitPart base) then .error (.form base text)
    else
      let n : Int := ofDigitValues base digits
      .ok (if negative then -n else n)

end MailConnection.Text
