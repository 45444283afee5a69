import MailConnection.Text.Quoted
import MailConnection.Text.Split
import MailConnection.Yaml.Moment

/-!
# Tags

The tag of a node says what kind of value it stands for.  A plain scalar without a
tag gets one by its form (`Tag.ofPlain`): words for nothing and for truth values,
whole numbers in several bases, numbers with a point, dates.  Everything else is a
text.

The same question is asked when a text is written: one that would be taken for
something else has to stand between quotes.
-/

namespace MailConnection.Yaml

/-- The kind of value that a node stands for. -/
inductive Tag where
  | null
  | bool
  | int
  | float
  | binary
  | timestamp
  | orderedMap
  | pairs
  | set
  | str
  | seq
  | map
  | merge
  | value
  | other (text : String)
deriving DecidableEq, Repr, Inhabited

namespace Tag

/-- What all tags of the standard kinds start with. -/
def standardStart : String := "tag:yaml.org,2002:"

/-- The standard kinds by name. -/
def standard : List (String × Tag) :=
  [("null", .null), ("bool", .bool), ("int", .int), ("float", .float), ("binary", .binary),
    ("timestamp", .timestamp), ("omap", .orderedMap), ("pairs", .pairs), ("set", .set),
    ("str", .str), ("seq", .seq), ("map", .map), ("merge", .merge), ("value", .value)]

/-- The tag with a text. -/
def ofText (text : String) : Tag :=
  match standard.find? fun (name, _) => standardStart ++ name == text with
  | some (_, tag) => tag
  | none => .other text

/-- The text of a tag. -/
def text : Tag → String
  | .other text => text
  | tag =>
    match standard.find? fun (_, known) => known == tag with
    | some (name, _) => standardStart ++ name
    | none => standardStart

/-! ## Forms of numbers -/

/-- The text without a sign at its start. -/
def dropSign : List Char → List Char
  | '+' :: rest => rest
  | '-' :: rest => rest
  | rest => rest

/-- A digit or a low line. -/
private def isDigitOrLine (c : Char) : Bool := c.isDigit || c == '_'

/-- Digits and low lines, a digit first. -/
private def isGrouped (cs : List Char) : Bool :=
  cs.head?.any Char.isDigit && cs.all isDigitOrLine

/-- A numeral below sixty. -/
private def isSixtieth : List Char → Bool
  | [c] => c.isDigit
  | [c, d] => '0' ≤ c && c ≤ '5' && d.isDigit
  | _ => false

/-- A whole number in base 2, 8, 10, 16 or, with colons between the digits, 60. -/
def isInt (cs : List Char) : Bool :=
  match dropSign cs with
  | ['0'] => true
  | '0' :: 'b' :: digits => digits ≠ [] && digits.all fun c => c == '0' || c == '1' || c == '_'
  | '0' :: 'x' :: digits => digits ≠ [] && digits.all fun c => (Text.hexValue? c).isSome || c == '_'
  | '0' :: digits => digits.all fun c => ('0' ≤ c && c ≤ '7') || c == '_'
  | body =>
    match Text.segments ':' body with
    | [] => false
    | first :: others => isGrouped first && others.all isSixtieth

/-- An exponent with its sign, or nothing. -/
private def isExponent : List Char → Bool
  | [] => true
  | e :: sign :: digits =>
    (e == 'e' || e == 'E') && (sign == '+' || sign == '-') && digits ≠ [] && digits.all Char.isDigit
  | _ => false

/-- What follows the point of a number: digits and possibly an exponent. -/
private def isFraction (cs : List Char) : Bool := isExponent (cs.dropWhile isDigitOrLine)

/-- A number with a point in base 10 or 60, or one of the words for what is no finite
number. -/
def isFloat (cs : List Char) : Bool :=
  let unsigned := dropSign cs
  [".inf", ".Inf", ".INF"].contains (String.ofList unsigned) ||
    [".nan", ".NaN", ".NAN"].contains (String.ofList cs) ||
    match Text.after? '.' unsigned with
    | none => false
    | some fraction =>
      match Text.segments ':' (Text.before '.' unsigned) with
      | [] => false
      | [[]] => cs = unsigned && fraction.head?.any Char.isDigit && isFraction fraction
      | [whole] => isGrouped whole && isFraction fraction
      | first :: others =>
        isGrouped first && others.all isSixtieth && fraction.all isDigitOrLine

/-! ## Plain scalars -/

/-- The words for nothing. -/
private def nullWords : List String := ["", "~", "null", "Null", "NULL"]

/-- The words for a truth value. -/
private def truthWords : List String :=
  ["yes", "Yes", "YES", "no", "No", "NO", "true", "True", "TRUE", "false", "False", "FALSE",
    "on", "On", "ON", "off", "Off", "OFF"]

/-- The tag of a plain scalar without a line feed at its end. -/
private def ofWord (cs : List Char) : Tag :=
  let word := String.ofList cs
  if nullWords.contains word then .null
  else if truthWords.contains word then .bool
  else if isFloat cs then .float
  else if isInt cs then .int
  else if word = "<<" then .merge
  else if word = "=" then .value
  else if ["!", "&", "*"].contains word then .other (standardStart ++ "yaml")
  else if (MomentForm.read? cs).any MomentForm.isComplete then .timestamp
  else .str

/-- The tag of a plain scalar.  A line feed at its end counts for nothing, except
that it makes the empty text a text. -/
def ofPlain (text : String) : Tag :=
  let cs := text.toList
  if cs = ['\n'] then .str
  else if cs.getLast? = some '\n' then ofWord cs.dropLast
  else ofWord cs

end Tag

end MailConnection.Yaml
