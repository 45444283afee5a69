import MailConnection.Text.Utf8
import MailConnection.Yaml.Token

/-!
# Names, tags and directives

Before a node may stand an anchor and a tag, in place of a node an alias, and before
a document directives.  Each reader of this module starts at the sign that
announces such a thing and gives what it says and the cursor after it.
-/

namespace MailConnection.Yaml

/-! ## Anchors and aliases -/

/-- A character that may stand after the name of an anchor. -/
private def endsName (c : Char) : Bool :=
  isGap c || isBreak c || ['?', ':', ',', ']', '\x7d', '%', '@', '\x60'].contains c

/-- The name after the sign of an anchor or an alias. -/
def anchorName (cursor : Cursor) : Except Failure (String × Cursor) :=
  let expected := "expected alphabetic or numeric character"
  let (name, after) := cursor.next.run isNameChar
  if name = [] then after.unexpected expected
  else if !endOr endsName after.peek then after.unexpected expected
  else .ok (String.ofList name, after)

/-! ## Tags -/

/-- A character that may stand in the address that a tag is. -/
private def isAddressChar (c : Char) : Bool :=
  c.isAlphanum || "-;/?:@&=+$,_.!~*'()[]%".toList.contains c

/-- The octets of escapes that stand one after the other. -/
private def escapedOctets : (fuel : Nat) → List Nat → Cursor → Except Failure (List Nat × Cursor)
  | 0, octets, cursor => .ok (octets.reverse, cursor)
  | fuel + 1, octets, cursor =>
    if cursor.peek ≠ some '%' then .ok (octets.reverse, cursor)
    else
      let digits := cursor.next
      let expected := "expected URI escape sequence of 2 hexadecimal numbers, but found "
      match digits.peek.bind Text.hexValue?, (digits.peekAt 1).bind Text.hexValue? with
      | some high, some low => escapedOctets fuel ((16 * high + low) :: octets) (digits.skip 2)
      | none, _ => digits.problem (expected ++ shown digits.peek)
      | _, none => (digits.look 2).problem (expected ++ shown (digits.peekAt 1))

/-- What is said about octets that are no text. -/
private def octetsMessage (octets : List Nat) (first count : Nat) (defect : Text.Utf8.Defect) :
    String :=
  let place :=
    if count = 1 then
      "byte 0x" ++ String.ofList (Text.hexDigits Text.lowerHexDigit 2 (octets[first]?.getD 0)) ++
        " in position " ++ toString first
    else "bytes in position " ++ toString first ++ "-" ++ toString (first + count - 1)
  "'utf-8' codec can't decode " ++ place ++ ": " ++ defect.message

/-- The text that escapes stand for. -/
private def escapedText (cursor : Cursor) : Except Failure (List Char × Cursor) := do
  let (octets, after) ← escapedOctets (cursor.rest.length + 1) [] cursor
  match Text.Utf8.firstDefect none 0 0 octets with
  | some (first, count, defect) =>
    after.fail (.problem (octetsMessage octets first count defect) cursor.mark)
  | none => return (Text.Utf8.decode octets, after)

/-- The characters of an address, with those escaped as octets decoded. -/
private def addressBody : (fuel : Nat) → List Char → Cursor → Except Failure (List Char × Cursor)
  | 0, text, cursor => .ok (text, cursor)
  | fuel + 1, text, cursor =>
    match cursor.peek with
    | some c =>
      if c = '%' then do
        let (decoded, cursor) ← escapedText cursor
        addressBody fuel (text ++ decoded) cursor
      else if isAddressChar c then
        let (run, cursor) := cursor.run fun c => isAddressChar c && c != '%'
        addressBody fuel (text ++ run) cursor
      else .ok (text, cursor)
    | none => .ok (text, cursor)

/-- The address that a tag or the declaration of a handle holds, escapes resolved. -/
private def address (cursor : Cursor) : Except Failure (String × Cursor) := do
  let (text, after) ← addressBody (cursor.rest.length + 1) [] cursor
  if after.index = cursor.index then after.unexpected "expected URI"
  else return (String.ofList text, after)

/-- The handle of a tag: `!`, `!!` or a name between exclamation marks.  A lone mark is
one only before a space. -/
private def handle (cursor : Cursor) : Except Failure (String × Cursor) :=
  if cursor.peek ≠ some '!' then cursor.unexpected "expected '!'"
  else if cursor.peekAt 1 = some ' ' then .ok ("!", cursor.next)
  else
    let (name, after) := cursor.next.run isNameChar
    if after.peek ≠ some '!' then after.unexpected "expected '!'"
    else .ok (String.ofList ('!' :: name ++ ['!']), after.next)

/-- Whether a second exclamation mark stands in the word after the first one, and the
cursor after the look for it. -/
private def findHandle (cursor : Cursor) : Bool × Cursor :=
  let word := (cursor.rest.drop 1).takeWhile fun c => !(c == ' ' || c == '!' || isBreak c)
  (cursor.peekAt (word.length + 1) == some '!', cursor.look (word.length + 2))

/-- A tag as its handle, if it has one, and what follows it. -/
private def tagParts (cursor : Cursor) : Except Failure (Option String × String × Cursor) :=
  if cursor.peekAt 1 = some '<' then do
    let (suffix, after) ← address (cursor.skip 2)
    if after.peek ≠ some '>' then after.unexpected "expected '>'"
    else return (none, suffix, after.next)
  else if isGapOrEnd (cursor.peekAt 1) then .ok (none, "!", cursor.next)
  else do
    let (hasHandle, cursor) := findHandle cursor
    if hasHandle then
      let (name, after) ← handle cursor
      let (suffix, after) ← address after
      return (some name, suffix, after)
    else
      let (suffix, after) ← address cursor.next
      return (some "!", suffix, after)

/-- The tag that stands here. -/
def tagSymbol (cursor : Cursor) : Except Failure (Symbol × Cursor) := do
  let (handle, suffix, after) ← tagParts cursor
  if !isSpaceOrEnd after.peek then after.unexpected "expected ' '"
  else return (.tag handle suffix, after)

/-! ## Directives -/

/-- A number in the declaration of a version. -/
private def versionNumber (cursor : Cursor) : Except Failure (Nat × Cursor) :=
  let (digits, after) := cursor.run Char.isDigit
  if digits = [] then cursor.unexpected "expected a digit"
  else if Text.maxNumeralLength < digits.length then
    after.fail (.conversion (.integer (.tooLong digits.length)))
  else .ok (Text.numeralValue digits, after)

/-- The declaration of a version. -/
private def version (cursor : Cursor) : Except Failure (Symbol × Cursor) := do
  let (major, after) ← versionNumber cursor.skipSpaces
  if after.peek ≠ some '.' then after.unexpected "expected a digit or '.'"
  else
    let (_, after) ← versionNumber after.next
    if !isSpaceOrEnd after.peek then after.unexpected "expected a digit or ' '"
    else return (.versionDirective major, after)

/-- The declaration of a handle. -/
private def handleDeclaration (cursor : Cursor) : Except Failure (Symbol × Cursor) := do
  let (name, after) ← handle cursor.skipSpaces
  if after.peek ≠ some ' ' then after.unexpected "expected ' '"
  else
    let (uri, after) ← address after.skipSpaces
    if !isSpaceOrEnd after.peek then after.unexpected "expected ' '"
    else return (.tagDirective name uri, after)

/-- The directive that stands here, with the rest of its line. -/
def directiveSymbol (cursor : Cursor) : Except Failure (Symbol × Mark × Cursor) := do
  let expected := "expected alphabetic or numeric character"
  let (name, after) := cursor.next.run isNameChar
  if name = [] then after.unexpected expected
  else if !isSpaceOrEnd after.peek then after.unexpected expected
  else
    let (symbol, after) ← match String.ofList name with
      | "YAML" => version after
      | "TAG" => handleDeclaration after
      | _ => pure (.otherDirective, after.skipWhile fun c => !isBreak c)
    let line := after.skipSpaces.skipComment
    if !isLineEnd line.peek then line.unexpected "expected a comment or a line break"
    else return (symbol, after.mark, (line.lineBreak?.map Prod.snd).getD line)

end MailConnection.Yaml
