import MailConnection.Text.Quoted
import MailConnection.Text.Utf8
import MailConnection.Value

/-!
# Showing values

`Value.display` shows a value on one line: texts between quotes, lists in
brackets, records in braces.  `excerpt` shortens a long line to its two ends, so
that a message about a value stays readable whatever the value is.
-/

namespace MailConnection

namespace Value

/-! ## Whole values -/

/-- Octets between quotes, those that are no printable ASCII characters by their
codes. -/
private def displayOctets (octets : List Nat) : List Char :=
  let quote := Text.quoteMark (octets.map Char.ofNat)
  'b' :: quote ::
    octets.flatMap (fun b =>
      if b < 0x80 then Text.quotedChar quote (Char.ofNat b)
      else '\\' :: 'x' :: Text.hexDigits Text.lowerHexDigit 2 b) ++ [quote]

mutual

/-- A value on one line. -/
def display : Value → String
  | .null => "None"
  | .bool b => if b then "True" else "False"
  | .int n => toString n
  | .real x => x.text
  | .text s => Text.quotedString s
  | .octets bs => String.ofList (displayOctets bs)
  | .moment s => s
  | .list items => "[" ++ ", ".intercalate (displayItems items) ++ "]"
  | .record entries => "\x7b" ++ ", ".intercalate (displayEntries entries) ++ "\x7d"

/-- The items of a list, each on one line. -/
def displayItems : List Value → List String
  | [] => []
  | item :: rest => display item :: displayItems rest

/-- The entries of a record, each on one line. -/
def displayEntries : List (Value × Value) → List String
  | [] => []
  | (key, value) :: rest => (display key ++ ": " ++ display value) :: displayEntries rest

end

/-- The word for the kind of a value. -/
def kindName : Value → String
  | .null => "NoneType"
  | .bool _ => "bool"
  | .int _ => "int"
  | .real _ => "float"
  | .text _ => "str"
  | .octets _ => "bytes"
  | .moment _ => "datetime"
  | .list _ => "list"
  | .record _ => "dict"

/-! ## Excerpts -/

/-- The longest beginning of a text that has at most so many octets. -/
private def takeOctets : (limit : Nat) → List Char → List Char
  | _, [] => []
  | limit, c :: rest =>
    let size := (Text.Utf8.encodeChar c).length
    if size ≤ limit then c :: takeOctets (limit - size) rest else []

/-- The number of octets of a line from which on it is shortened. -/
def maxOctets : Nat := 50

/-- A line, or its two ends when it is longer than `maxOctets`. -/
def excerpt (line : String) : String :=
  let cs := line.toList
  if (Text.Utf8.encode cs).length ≤ maxOctets then line
  else
    String.ofList (takeOctets (maxOctets / 2) cs ++ "...".toList ++
      (takeOctets (maxOctets / 2 - 1) cs.reverse).reverse)

end Value

end MailConnection
