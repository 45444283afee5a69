import MailConnection.Text.Blank
import MailConnection.Text.Numeral
import MailConnection.Text.Split
import MailConnection.Text.Utf8
import MailConnection.Value

/-!
# Checking fields

Values of unknown shape become fields of accounts, connections and settings.  A
`Fault` says why a value was refused, a `FieldError` adds where it stood.

`readInt` and `readText` are the two checks that all fields are made of.  A whole
number may be given as such, as a truth value, as a number without a fraction
part and below `maxRealWhole`, or as a numeral.  A text, and a numeral too, may be
given as such or as its octets (`textOfOctets?`).
-/

namespace MailConnection

/-! ## Errors -/

/-- Why a value was refused. -/
inductive Fault where
  | notInt
  | fraction
  | notFinite
  | notNumeral
  | numeralTooLong
  | notText
  | textNotUtf8
  | pattern (expected : String)
  | tooShort
  | missing
  | extra
  | notList
  | notModel (model : String)
  | unknownAttribute (name : String)
  | value (reason : String)
deriving DecidableEq, Repr

namespace Fault

/-- The kind of a fault, as a word. -/
def kind : Fault → String
  | .notInt => "int_type"
  | .fraction => "int_from_float"
  | .notFinite => "finite_number"
  | .notNumeral => "int_parsing"
  | .numeralTooLong => "int_parsing_size"
  | .notText => "string_type"
  | .textNotUtf8 => "string_unicode"
  | .pattern _ => "string_pattern_mismatch"
  | .tooShort => "string_too_short"
  | .missing => "missing"
  | .extra => "extra_forbidden"
  | .notList => "list_type"
  | .notModel _ => "model_type"
  | .unknownAttribute _ => "no_such_attribute"
  | .value _ => "value_error"

/-- The text of a fault. -/
def message : Fault → String
  | .notInt => "Input should be a valid integer"
  | .fraction => "Input should be a valid integer, got a number with a fractional part"
  | .notFinite => "Input should be a finite number"
  | .notNumeral =>
    "Input should be a valid integer, unable to parse string as an integer"
  | .numeralTooLong => "Unable to parse input string as an integer, exceeded maximum size"
  | .notText => "Input should be a valid string"
  | .textNotUtf8 =>
    "Input should be a valid string, unable to parse raw data as a unicode string"
  | .pattern expected => "String should match pattern '" ++ expected ++ "'"
  | .tooShort => "String should have at least 1 character"
  | .missing => "Field required"
  | .extra => "Extra inputs are not permitted"
  | .notList => "Input should be a valid list"
  | .notModel model => "Input should be a valid dictionary or instance of " ++ model
  | .unknownAttribute name => "Object has no attribute '" ++ name ++ "'"
  | .value reason => "Value error, " ++ reason

end Fault

/-- A step towards a refused value: the name of a field or a place in a list. -/
inductive Step where
  | field (name : String)
  | item (index : Nat)
deriving DecidableEq, Repr

/-- A refused value: where it stood and why it was refused. -/
structure FieldError where
  path : List Step
  fault : Fault
deriving DecidableEq, Repr

/-- The error one step further up. -/
def FieldError.under (step : Step) (error : FieldError) : FieldError :=
  { error with path := step :: error.path }

namespace Validation

/-- The text whose octets these are, if they are UTF-8. -/
def textOfOctets? (bs : List Nat) : Option String :=
  if (Text.Utf8.firstDefect none 0 0 bs).isNone then some (String.ofList (Text.Utf8.decode bs))
  else none

/-! ## Whole numbers -/

/-- What follows the zeros and low lines at the start of a numeral.  `last` is the last
of them that was passed; it is kept where a point follows or nothing does. -/
private def afterZeros? (last : Char) : List Char → Option (List Char)
  | [] => some [last]
  | c :: rest =>
    if c = '0' ∨ c = '_' then afterZeros? c rest
    else if c = '.' then some (last :: c :: rest)
    else if c.isDigit ∨ c = '-' then some (c :: rest)
    else none

/-- The numeral without the zeros at its start, if it starts with a digit or a minus. -/
def dropLeadingZeros? : List Char → Option (List Char)
  | [] => none
  | c :: rest =>
    if c = '0' then afterZeros? c rest
    else if c.isDigit ∨ c = '-' then some (c :: rest)
    else none

/-- The numeral without a point and the zeros after it, of which there is at least one. -/
def dropZeroFraction (cs : List Char) : List Char :=
  match Text.after? '.' cs with
  | some zeros => if zeros ≠ [] ∧ zeros.all (· == '0') then Text.before '.' cs else cs
  | none => cs

/-- Whether two low lines stand next to each other. -/
private def hasDoubleLine : List Char → Bool
  | c :: d :: rest => (c == '_' && d == '_') || hasDoubleLine (d :: rest)
  | _ => false

/-- The numeral without its low lines, if they are single ones and inside it. -/
def ungroup (cs : List Char) : List Char :=
  if cs.head? = some '_' ∨ cs.getLast? = some '_' ∨ hasDoubleLine cs = true then cs
  else cs.filter (· != '_')

/-- The whole number that a numeral without decoration names: a minus or nothing, and
digits without a zero in front.  It may have `Text.maxNumeralLength` characters, the
sign included, and what follows too many of them does not matter. -/
def plainNumeral (cs : List Char) : Except Fault Int :=
  let negative := cs.head? = some '-'
  let body := if negative then cs.drop 1 else cs
  let digits := body.takeWhile Char.isDigit
  let length := digits.length + if negative then 1 else 0
  if digits = [] ∨ (digits.head? = some '0' ∧ digits ≠ ['0']) then .error .notNumeral
  else if Text.maxNumeralLength < length then .error .numeralTooLong
  else if digits ≠ body then .error .notNumeral
  else
    let n : Int := Text.numeralValue digits
    .ok (if negative then -n else n)

/-- The numeral without blanks around it, without a plus and without zeros in front. -/
private def stripped? (cs : List Char) : Option (List Char) :=
  match Text.trimBy Text.isSpace cs with
  | '+' :: '-' :: _ => none
  | '+' :: rest => dropLeadingZeros? rest
  | '-' :: rest => (dropLeadingZeros? rest).map ('-' :: ·)
  | rest => dropLeadingZeros? rest

/-- The whole number that a text names: an optional sign, digits with single low lines
among them, and possibly a fraction part of zeros.  Zeros in front count for nothing,
nor do low lines among them, and a minus may stand after them. -/
def readNumeral (s : String) : Except Fault Int :=
  match stripped? s.toList with
  | none => .error .notNumeral
  | some cs => plainNumeral (ungroup (dropZeroFraction cs))

/-- The bound on the magnitude of a whole number that is given as a number with a
point. -/
def maxRealWhole : Nat := 0x8000000000000000

/-- The whole number that a value is. -/
def readInt : Value → Except Fault Int
  | .int n => .ok n
  | .bool b => .ok (if b then 1 else 0)
  | .text s => readNumeral s
  | .octets bs =>
    match textOfOctets? bs with
    | some s => readNumeral s
    | none => .error .notNumeral
  | .real x =>
    match x with
    | .finite .. => match x.toInt? with
      | some n => if n.natAbs < maxRealWhole then .ok n else .error .numeralTooLong
      | none => .error .fraction
    | _ => .error .notFinite
  | _ => .error .notInt

/-- The whole number that a value is, if it is not null. -/
def readOptionalInt : Value → Except Fault (Option Int)
  | .null => .ok none
  | value => (readInt value).map some

/-! ## Texts -/

/-- The text that a value is. -/
def readText : Value → Except Fault String
  | .text s => .ok s
  | .octets bs =>
    match textOfOctets? bs with
    | some s => .ok s
    | none => .error .textNotUtf8
  | _ => .error .notText

/-- The text that a value is, if it is not null. -/
def readOptionalText : Value → Except Fault (Option String)
  | .null => .ok none
  | value => (readText value).map some

/-! ## Records -/

/-- Check a field of a record that may be left out. -/
def field {α : Type} (entries : List (Value × Value)) (name : String) (absent : α)
    (read : Value → Except Fault α) : Except FieldError α :=
  match Value.lookup name entries with
  | none => .ok absent
  | some value =>
    match read value with
    | .ok a => .ok a
    | .error fault => .error ⟨[.field name], fault⟩

/-- The error of a check, if it failed. -/
def errorOf {α : Type} : Except FieldError α → List FieldError
  | .ok _ => []
  | .error e => [e]

/-! ## Checks one after another -/

section
variable {ε δ α β : Type} {result : Except ε α} {f : ε → δ}

/-- What comes of two steps comes of the second one, after the first. -/
theorem bind_eq_ok_iff {next : α → Except ε β} {b : β} :
    result >>= next = .ok b ↔ ∃ a, result = .ok a ∧ next a = .ok b := by
  cases result with
  | ok a => simp [bind, Except.bind]
  | error e => simp [bind, Except.bind]

/-- Errors in other words are errors still. -/
theorem mapError_eq_ok_iff {a : α} : result.mapError f = .ok a ↔ result = .ok a := by
  cases result with
  | ok b => exact ⟨fun h => congrArg _ (Except.ok.inj h), fun h => congrArg _ (Except.ok.inj h)⟩
  | error e =>
    constructor
    · intro h
      cases h
    · intro h
      cases h

theorem mapError_eq_error_iff {d : δ} :
    result.mapError f = .error d ↔ ∃ e, result = .error e ∧ f e = d := by
  cases result with
  | ok b =>
    constructor
    · intro h
      cases h
    · rintro ⟨_, ⟨⟩, _⟩
  | error e =>
    constructor
    · intro h
      exact ⟨e, rfl, Except.error.inj h⟩
    · rintro ⟨_, ⟨⟩, rfl⟩
      rfl

end

end Validation

end MailConnection
