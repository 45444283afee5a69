import MailConnection.Yaml.Cursor
import MailConnection.Yaml.Tag

/-!
# Writing records

`record` writes names and values as a document with one line for each, as long as
the values are short.  A text is written plain if it is read back as that text; else
between single quotes if it is made of printable ASCII characters and its line
breaks do not meet spaces; else between double quotes with escapes.

Lines that grow longer than `maxColumn` are broken: at a single space between two
words, and between double quotes at almost any place, a backslash before the break.
-/

namespace MailConnection.Yaml

/-! ## Values -/

/-- A value that a record can hold when it is written. -/
inductive Atom where
  | null
  | int (n : Int)
  | text (s : String)
deriving DecidableEq, Repr

/-- The column from which on lines are broken. -/
def maxColumn : Nat := 80

/-- A line break and the indentation of a line that continues a value. -/
def continuation : List Char := ['\n', ' ', ' ']

/-- The column after the indentation of a line that continues a value. -/
def continuationColumn : Nat := 2

/-! ## Ways of writing a text -/

/-- How a text is written. -/
inductive Style where
  | plain
  | single
  | double
deriving DecidableEq, Repr

/-- A character that is written as it is between single quotes. -/
private def isOrdinary (c : Char) : Bool := c == '\n' || (' ' ≤ c && c ≤ '~')

/-- Whether a pair of characters occurs side by side. -/
private def hasPair (a b : Char) : List Char → Bool
  | c :: d :: rest => (c == a && d == b) || hasPair a b (d :: rest)
  | _ => false

/-- Whether a text may stand between single quotes. -/
def allowsSingle (cs : List Char) : Bool :=
  cs.all isOrdinary && !hasPair ' ' '\n' cs && !hasPair '\n' ' ' cs

/-- Whether the first character of a text would be taken for an indicator. -/
private def startsWithIndicator (cs : List Char) : Bool :=
  match cs with
  | [] => false
  | c :: rest =>
    "#,[]\x7b\x7d&*!|>'\"%@\x60".toList.contains c ||
      ((c == '?' || c == ':' || c == '-') && rest.head?.all (· == ' '))

/-- Whether a text has a colon before a space or at its end, or a number sign after a
space. -/
private def hasInnerIndicator : List Char → Bool
  | [] => false
  | [c] => c == ':'
  | c :: d :: rest =>
    (c == ':' && d == ' ') || (c == ' ' && d == '#') || hasInnerIndicator (d :: rest)

/-- Whether a text may stand without quotes after a name. -/
def allowsPlain (cs : List Char) : Bool :=
  cs != [] && cs.all (fun c => isOrdinary c && c != '\n') &&
    cs.head? != some ' ' && cs.getLast? != some ' ' &&
    !(["---".toList, "...".toList].contains (cs.take 3)) &&
    !startsWithIndicator cs && !hasInnerIndicator cs

/-- The way in which a text is written. -/
def styleOf (s : String) : Style :=
  if allowsPlain s.toList ∧ Tag.ofPlain s = .str then .plain
  else if allowsSingle s.toList then .single
  else .double

/-! ## Plain and single-quoted texts -/

/-- A text cut into runs of spaces, runs of line breaks, and words in between. -/
private def pieces : List Char → List (List Char)
  | [] => []
  | c :: rest =>
    let kind := fun (d : Char) => if d = ' ' then 0 else if d = '\n' then 1 else 2
    match pieces rest with
    | (d :: more) :: others =>
      if kind c = kind d then (c :: d :: more) :: others else [c] :: (d :: more) :: others
    | others => [c] :: others

/-- A text in which lines are broken at single spaces.  A text in single quotes has its
quotes doubled and its line breaks followed by one more. -/
private def writeWords (quoted : Bool) :
    (column : Nat) → (first : Bool) → List (List Char) → List Char
  | _, _, [] => []
  | column, first, piece :: rest =>
    let last := rest.isEmpty
    match piece with
    | ' ' :: more =>
      if more = [] ∧ maxColumn < column ∧ !(quoted && (first || last)) = true then
        continuation ++ writeWords quoted continuationColumn false rest
      else piece ++ writeWords quoted (column + piece.length) false rest
    | '\n' :: _ =>
      '\n' :: piece.dropLast ++ continuation ++ writeWords quoted continuationColumn false rest
    | _ =>
      let written :=
        if quoted then piece.flatMap fun c => if c = '\'' then [c, c] else [c] else piece
      written ++ writeWords quoted (column + written.length) false rest

/-! ## Double-quoted texts -/

/-- The letter that a character is escaped by, if it has one. -/
private def escapeLetter? (c : Char) : Option Char :=
  match c with
  | '\x00' => some '0'
  | '\x07' => some 'a'
  | '\x08' => some 'b'
  | '\t' => some 't'
  | '\n' => some 'n'
  | '\x0b' => some 'v'
  | '\x0c' => some 'f'
  | '\r' => some 'r'
  | '\x1b' => some 'e'
  | '"' => some '"'
  | '\\' => some '\\'
  | '\x85' => some 'N'
  | '\xa0' => some '_'
  | '\u2028' => some 'L'
  | '\u2029' => some 'P'
  | _ => none

/-- The escape of a character that does not stand for itself between double quotes. -/
private def escapeOf (c : Char) : Option (List Char) :=
  match escapeLetter? c with
  | some letter => some ['\\', letter]
  | none =>
    let digits := fun width => Text.hexDigits Text.upperHexDigit width c.toNat
    if ' ' ≤ c ∧ c ≤ '~' then none
    else if c.toNat < 0x100 then some ('\\' :: 'x' :: digits 2)
    else if c.toNat < 0x10000 then some ('\\' :: 'u' :: digits 4)
    else some ('\\' :: 'U' :: digits 8)

/-- A broken line between double quotes, and the backslash that protects a space at the
start of the next one. -/
private def breakLine (next : Option Char) : List Char :=
  '\\' :: continuation ++ (if next = some ' ' then ['\\'] else [])

/-- A text between double quotes.  `column` is the column at which the next character
comes to stand, and `fresh` says that the last one was escaped or followed by a
broken line.  A line is broken after an escape or before a space or a character
that follows an escape, but not next to the quotes. -/
private def writeEscaped : (column : Nat) → (first fresh : Bool) → List Char → List Char
  | _, _, _, [] => []
  | column, first, fresh, c :: rest =>
    let inner := !first && !rest.isEmpty
    match escapeOf c with
    | some escaped =>
      let column := column + escaped.length
      if inner && maxColumn + 1 < column then
        let extra := if rest.head? = some ' ' then 1 else 0
        escaped ++ breakLine rest.head? ++
          writeEscaped (continuationColumn + extra) false true rest
      else escaped ++ writeEscaped column false true rest
    | none =>
      if inner && (c == ' ' || fresh) && maxColumn < column then
        let extra := if c = ' ' then 1 else 0
        breakLine (some c) ++ c :: writeEscaped (continuationColumn + extra + 1) false false rest
      else c :: writeEscaped (column + 1) false false rest

/-! ## Records -/

/-- A text that starts at a column. -/
def writeText (column : Nat) (s : String) : List Char :=
  match styleOf s with
  | .plain => writeWords false column true (pieces s.toList)
  | .single => '\'' :: writeWords true (column + 1) true (pieces s.toList) ++ ['\'']
  | .double => '"' :: writeEscaped (column + 1) true true s.toList ++ ['"']

/-- A value that starts at a column. -/
def Atom.write (column : Nat) : Atom → List Char
  | .null => "null".toList
  | .int n => (toString n).toList
  | .text s => writeText column s

/-- A name and its value on a line of their own. -/
def writeField (name : String) (value : Atom) : List Char :=
  name.toList ++ ':' :: ' ' :: value.write (name.length + 2) ++ ['\n']

/-- Names and values as a document. -/
def record (fields : List (String × Atom)) : String :=
  String.ofList (fields.flatMap fun (name, value) => writeField name value)

end MailConnection.Yaml
