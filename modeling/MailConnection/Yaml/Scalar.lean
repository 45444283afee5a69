import MailConnection.Text.Base64
import MailConnection.Text.Lowercase
import MailConnection.Value
import MailConnection.Yaml.Problem
import MailConnection.Yaml.Tag

/-!
# Values of scalars

The text of a scalar is converted to the value that its tag says.  A plain scalar
whose tag follows from its form can hardly fail here; one with an explicit tag may
be anything.
-/

namespace MailConnection.Yaml

/-! ## Whole numbers -/

/-- A text without low lines, which may stand anywhere in a number. -/
private def ungrouped (text : String) : List Char := text.toList.filter (· != '_')

/-- A whole number in a base. -/
private def inBase (base : Nat) (cs : List Char) : Except ConversionError Int :=
  (Text.readInteger base (String.ofList cs)).mapError .integer

/-- A whole number without its sign.  Its first characters tell the base. -/
private def intMagnitude (cs : List Char) : Except ConversionError Int :=
  match cs with
  | [] => .error .noDigits
  | ['0'] => .ok 0
  | '0' :: 'b' :: digits => inBase 2 digits
  | '0' :: 'x' :: digits => inBase 16 digits
  | '0' :: _ => inBase 8 cs
  | _ =>
    if ':' ∈ cs then do
      let digits ← (Text.segments ':' cs).mapM (inBase 10)
      return digits.foldl (fun n digit => n * 60 + digit) 0
    else inBase 10 cs

/-- The whole number of a scalar. -/
def intOf (text : String) : Except ConversionError Int :=
  let (negative, body) := Text.splitSign (ungrouped text)
  (intMagnitude body).map fun n => if negative then -n else n

/-! ## Numbers with a point -/

/-- Decimal digits of any script as ASCII digits. -/
private def plainDigit (c : Char) : Char :=
  match Text.decimalValue? c with
  | some n => Char.ofNat (n + 48)
  | none => c

/-- The power of ten after the letter `e`, or zero. -/
private def exponentOf? (cs : List Char) : Option Int :=
  match cs with
  | [] => some 0
  | 'e' :: rest =>
    let (negative, digits) := Text.splitSign rest
    if digits = [] ∨ !digits.all Char.isDigit then none
    else
      let n : Int := Text.numeralValue digits
      some (if negative then -n else n)
  | _ => none

/-- The decimal number that a text in lower case and without sign is: its digits, and
the power of ten that they are multiplied by. -/
private def decimalOf? (cs : List Char) : Option (Nat × Int) := do
  let whole := cs.takeWhile Char.isDigit
  let rest := cs.dropWhile Char.isDigit
  let (fraction, rest) := match rest with
    | '.' :: rest => (rest.takeWhile Char.isDigit, rest.dropWhile Char.isDigit)
    | rest => ([], rest)
  if whole = [] ∧ fraction = [] then none
  let power ← exponentOf? rest
  return (Text.numeralValue (whole ++ fraction), power - fraction.length)

/-- The number that a text in lower case is. -/
private def realPart (cs : List Char) : Except ConversionError Binary64 :=
  let (negative, body) := Text.splitSign ((Text.trimBy Text.isSpace cs).map plainDigit)
  let word := String.ofList body
  if word = "inf" ∨ word = "infinity" then .ok (.infinite negative)
  else if word = "nan" then .ok .nan
  else
    match decimalOf? body with
    | some (digits, power) => .ok (Binary64.ofDecimal negative digits power)
    | none => .error (.real (String.ofList cs))

/-- The sum of the parts of a number in base 60, the last part first.  Each part is
multiplied by its power of sixty, which has to be in the range of binary64 numbers. -/
private def inBase60 : (power : Nat) → (sum : Binary64) → List Binary64 →
    Except ConversionError Binary64
  | _, sum, [] => .ok sum
  | power, sum, part :: rest =>
    match Binary64.ofRatio false power 1 with
    | .finite _ mantissa exponent =>
      inBase60 (60 * power) (sum.add (part.scale false mantissa exponent)) rest
    | _ => .error .powerTooLarge

/-- The number of a scalar without its sign; its parts in base 60 stand between colons. -/
private def unsignedReal (cs : List Char) : Except ConversionError Binary64 :=
  if ':' ∈ cs then do
    let parts ← (Text.segments ':' cs).mapM realPart
    inBase60 1 (.finite false 0 0) parts.reverse
  else realPart cs

/-- The number of a scalar. -/
def realOf (text : String) : Except ConversionError Binary64 :=
  let lower := Text.lower (ungrouped text)
  if lower = [] then .error .noDigits
  else
    let (negative, body) := Text.splitSign lower
    let word := String.ofList body
    if word = ".inf" then .ok (.infinite negative)
    else if word = ".nan" then .ok .nan
    else (unsignedReal body).map fun x => if negative then x.neg else x

/-! ## Truth values, moments and octets -/

/-- The truth value of a scalar. -/
def truthOf (text : String) : Except ConversionError Bool :=
  let word := String.ofList (Text.lower text.toList)
  if ["yes", "true", "on"].contains word then .ok true
  else if ["no", "false", "off"].contains word then .ok false
  else .error (.truthWord word)

/-- The moment of a scalar, in one notation. -/
def momentOf (text : String) : Except ConversionError String :=
  let cs := text.toList
  match MomentForm.read? (if cs.getLast? = some '\n' then cs.dropLast else cs) with
  | none => .error .momentForm
  | some form => form.check.mapError .moment

/-- What is said about characters that are not ASCII. -/
private def notAsciiMessage (cs : List Char) : Option String :=
  match cs.findIdx? fun c => 0x80 ≤ c.toNat with
  | none => none
  | some first =>
    let count := ((cs.drop first).takeWhile fun c => 0x80 ≤ c.toNat).length
    let place :=
      if count = 1 then
        let code := (cs[first]?.getD ' ').toNat
        let digits := fun width => String.ofList (Text.hexDigits Text.lowerHexDigit width code)
        let shown :=
          if code < 0x100 then "\\x" ++ digits 2
          else if code < 0x10000 then "\\u" ++ digits 4
          else "\\U" ++ digits 8
        "character '" ++ shown ++ "' in position " ++ toString first
      else
        "characters in position " ++ toString first ++ "-" ++ toString (first + count - 1)
    some ("'ascii' codec can't encode " ++ place ++ ": ordinal not in range(128)")

/-- The octets of a scalar in base 64, or what is wrong with it. -/
def octetsOf (text : String) : Except String (List Nat) :=
  match notAsciiMessage text.toList with
  | some message => .error ("failed to convert base64 data into ascii: " ++ message)
  | none =>
    (Text.Base64.decode text.toList).mapError fun error =>
      "failed to decode base64 data: " ++ error.message

/-! ## All scalars -/

/-- The value of a scalar with a tag.  A tag without values of its own is an error. -/
def scalarValue (mark : Mark) (tag : Tag) (text : String) : Except Failure Value :=
  match tag with
  | .null => .ok .null
  | .bool => ((truthOf text).map .bool).mapError .conversion
  | .int => ((intOf text).map .int).mapError .conversion
  | .float => ((realOf text).map .real).mapError .conversion
  | .timestamp => ((momentOf text).map .moment).mapError .conversion
  | .binary => ((octetsOf text).map .octets).mapError fun message => .problem message mark
  | .str => .ok (.text text)
  | tag =>
    .error (.problem ("could not determine a constructor for the tag " ++
      Text.quotedString tag.text) mark)

end MailConnection.Yaml
