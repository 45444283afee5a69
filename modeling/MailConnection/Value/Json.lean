import MailConnection.Text.Quoted
import MailConnection.Value

/-!
# JSON

`parse` reads a text as one JSON value.  Beyond the standard, the words `NaN`,
`Infinity` and `-Infinity` are numbers.  A whole number may have at most
`maxDigits` digits, and lists and objects may be nested at most `maxDepth` deep.  Of
equal keys in an object the last one counts.  Half of a surrogate pair that stands
alone is read as the replacement character.
-/

namespace MailConnection.Json

/-- The greatest number of digits of a whole number that is read. -/
def maxDigits : Nat := 4300

/-- How deep lists and objects may be nested. -/
def maxDepth : Nat := 984

/-- Why a text is not read.  What stands behind the bracket or brace that is too deep
does not matter. -/
inductive Error where
  | malformed
  | listTooDeep
  | objectTooDeep
deriving DecidableEq, Repr

/-- A result that is malformed if there is none. -/
private def wellFormed {α : Type} : Option α → Except Error α
  | some a => .ok a
  | none => .error .malformed

/-- The text after blanks. -/
def skipBlanks (cs : List Char) : List Char :=
  cs.dropWhile fun c => c == ' ' || c == '\t' || c == '\n' || c == '\r'

/-! ## Numbers -/

/-- The fraction part, its digits counted, if there is one. -/
private def fraction (cs : List Char) : Option (List Char × List Char) :=
  match cs with
  | '.' :: rest =>
    let digits := rest.takeWhile Char.isDigit
    if digits = [] then none else some (digits, rest.dropWhile Char.isDigit)
  | _ => none

/-- The exponent part, if there is one. -/
private def exponent (cs : List Char) : Option (Int × List Char) :=
  match cs with
  | e :: rest =>
    if e = 'e' ∨ e = 'E' then
      let (negative, rest) := match rest with
        | '+' :: r => (false, r)
        | '-' :: r => (true, r)
        | r => (false, r)
      let digits := rest.takeWhile Char.isDigit
      if digits = [] then none
      else
        let n : Int := Nat.ofDigitChars 10 digits 0
        some (if negative then -n else n, rest.dropWhile Char.isDigit)
    else none
  | [] => none

/-- A number without its sign. -/
private def magnitude (negative : Bool) (cs : List Char) : Option (Value × List Char) :=
  let whole := match cs with
    | '0' :: _ => ['0']
    | _ => cs.takeWhile Char.isDigit
  let rest := cs.drop whole.length
  if whole = [] then none
  else
    match fraction rest, exponent ((fraction rest).elim rest Prod.snd) with
    | none, none =>
      if maxDigits < whole.length then none
      else
        let n : Int := Nat.ofDigitChars 10 whole 0
        some (.int (if negative then -n else n), rest)
    | part?, power? =>
      let digits := (part?.elim [] Prod.fst)
      let rest := power?.elim ((part?.elim rest Prod.snd)) Prod.snd
      let power := power?.elim 0 Prod.fst - digits.length
      some (.real (.ofDecimal negative (Nat.ofDigitChars 10 (whole ++ digits) 0) power), rest)

/-! ## Strings -/

/-- The code unit that four hexadecimal digits name. -/
private def codeUnit? : List Char → Option (Nat × List Char)
  | a :: b :: c :: d :: rest => do
    let n := (← Text.hexValue? a) * 0x1000 + (← Text.hexValue? b) * 0x100 +
      (← Text.hexValue? c) * 0x10 + (← Text.hexValue? d)
    return (n, rest)
  | _ => none

/-- The character after `\u`, joining a surrogate pair. -/
private def unicodeEscape? (cs : List Char) : Option (Char × List Char) := do
  let (n, rest) ← codeUnit? cs
  if 0xD800 ≤ n ∧ n < 0xDC00 then
    match rest with
    | '\\' :: 'u' :: rest' =>
      match codeUnit? rest' with
      | some (m, rest'') =>
        if 0xDC00 ≤ m ∧ m < 0xE000 then
          return (Char.ofNat (0x10000 + (n - 0xD800) * 0x400 + (m - 0xDC00)), rest'')
        else return ('\uFFFD', rest)
      | none => return ('\uFFFD', rest)
    | _ => return ('\uFFFD', rest)
  else if 0xDC00 ≤ n ∧ n < 0xE000 then return ('\uFFFD', rest)
  else return (Char.ofNat n, rest)

/-- The character that a letter after a backslash stands for. -/
private def shortEscape? (c : Char) : Option Char :=
  match c with
  | '"' => some '"'
  | '\\' => some '\\'
  | '/' => some '/'
  | 'b' => some '\x08'
  | 'f' => some '\x0c'
  | 'n' => some '\n'
  | 'r' => some '\r'
  | 't' => some '\t'
  | _ => none

/-- The characters of a string up to its closing quote. -/
private def stringBody : (fuel : Nat) → List Char → List Char → Option (List Char × List Char)
  | 0, _, _ => none
  | _ + 1, _, [] => none
  | fuel + 1, acc, c :: rest =>
    if c = '"' then some (acc.reverse, rest)
    else if c.toNat < 0x20 then none
    else if c = '\\' then
      match rest with
      | [] => none
      | 'u' :: rest => do
        let (d, rest) ← unicodeEscape? rest
        stringBody fuel (d :: acc) rest
      | e :: rest => do
        let d ← shortEscape? e
        stringBody fuel (d :: acc) rest
    else stringBody fuel (c :: acc) rest

/-- A string after its opening quotation mark. -/
private def string? (cs : List Char) : Option (String × List Char) :=
  (stringBody (cs.length + 1) [] cs).map fun (body, rest) => (String.ofList body, rest)

/-! ## Values -/

/-- The rest of the text after a word that it starts with. -/
private def afterWord? (word : String) (cs : List Char) : Option (List Char) :=
  if word.toList.isPrefixOf cs then some (cs.drop word.length) else none

/-- One of the words that are a value by themselves. -/
private def word? (cs : List Char) : Option (Value × List Char) :=
  let words : List (String × Value) :=
    [("null", .null), ("true", .bool true), ("false", .bool false), ("NaN", .real .nan),
      ("Infinity", .real (.infinite false)), ("-Infinity", .real (.infinite true))]
  words.findSome? fun (word, value) => (afterWord? word cs).map fun rest => (value, rest)

mutual

/-- A value at the start of a text.  `room` is how deep it may be nested. -/
private def value : (fuel room : Nat) → List Char → Except Error (Value × List Char)
  | 0, _, _ => .error .malformed
  | fuel + 1, room, cs =>
    match cs with
    | '"' :: rest => wellFormed ((string? rest).map fun (s, rest) => (.text s, rest))
    | '[' :: rest =>
      if room = 0 then .error .listTooDeep
      else match skipBlanks rest with
        | ']' :: rest => .ok (.list [], rest)
        | rest => (items fuel (room - 1) [] rest).map fun (items, rest) => (.list items, rest)
    | '\x7b' :: rest =>
      if room = 0 then .error .objectTooDeep
      else match skipBlanks rest with
        | '\x7d' :: rest => .ok (.record [], rest)
        | rest =>
          (members fuel (room - 1) [] rest).map fun (entries, rest) => (.record entries, rest)
    | '-' :: rest => wellFormed ((word? cs).orElse fun _ => magnitude true rest)
    | _ => wellFormed ((word? cs).orElse fun _ => magnitude false cs)

/-- The items of a list up to its closing bracket. -/
private def items : (fuel room : Nat) → List Value → List Char →
    Except Error (List Value × List Char)
  | 0, _, _, _ => .error .malformed
  | fuel + 1, room, acc, cs => do
    let (item, rest) ← value fuel room cs
    match skipBlanks rest with
    | ',' :: rest => items fuel room (item :: acc) (skipBlanks rest)
    | ']' :: rest => return ((item :: acc).reverse, rest)
    | _ => throw .malformed

/-- The members of an object up to its closing brace. -/
private def members : (fuel room : Nat) → List (Value × Value) → List Char →
    Except Error (List (Value × Value) × List Char)
  | 0, _, _, _ => .error .malformed
  | fuel + 1, room, acc, cs =>
    match cs with
    | '"' :: rest => do
      let (key, rest) ← wellFormed (string? rest)
      match skipBlanks rest with
      | ':' :: rest =>
        let (value, rest) ← value fuel room (skipBlanks rest)
        let acc := Value.setEntry (.text key) value acc
        match skipBlanks rest with
        | ',' :: rest => members fuel room acc (skipBlanks rest)
        | '\x7d' :: rest => return (acc, rest)
        | _ => throw .malformed
      | _ => throw .malformed
    | _ => .error .malformed

end

/-- The value that a text is in JSON. -/
def parse (s : String) : Except Error Value := do
  let cs := s.toList
  let (value, rest) ← value (2 * cs.length + 2) maxDepth (skipBlanks cs)
  if skipBlanks rest = [] then return value else throw .malformed

end MailConnection.Json
