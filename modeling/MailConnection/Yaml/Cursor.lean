import MailConnection.Yaml.Problem

/-!
# Places in a document

A `Cursor` is a place in a document with the text that follows it.  Line feed, next
line, line separator and paragraph separator end a line.

Only the beginning of a text may be at hand (`Supply`).  A cursor counts the characters
that have been looked at, the one after those that were passed included; as soon as
this is more than there are, what is wrong with the text comes before anything that is
found in it (`Cursor.failure?`).

The operations of this module move a cursor: over one character, over a run of
characters of a class, over a line break.
-/

namespace MailConnection.Yaml

/-! ## Classes of characters -/

/-- A character that ends a line. -/
def isBreak (c : Char) : Bool := c == '\n' || c == '\x85' || c == '\u2028' || c == '\u2029'

/-- A space or a tab. -/
def isGap (c : Char) : Bool := c == ' ' || c == '\t'

/-- A character that may stand in the name of an anchor or of a directive. -/
def isNameChar (c : Char) : Bool := c.isAlphanum || c == '-' || c == '_'

/-- Whether the end of the text or a character of a class comes next. -/
def endOr (p : Char → Bool) : Option Char → Bool
  | none => true
  | some c => p c

/-- Whether a line ends here. -/
def isLineEnd (next : Option Char) : Bool := endOr isBreak next

/-- Whether a line ends here or a space follows. -/
def isSpaceOrEnd (next : Option Char) : Bool := endOr (fun c => c == ' ' || isBreak c) next

/-- Whether a line ends here or a space or a tab follows. -/
def isGapOrEnd (next : Option Char) : Bool := endOr (fun c => isGap c || isBreak c) next

/-- A character as a message names it; the end of the text is named as the null
character. -/
def shown (next : Option Char) : String := String.ofList (Text.quoted [next.getD '\x00'])

/-! ## Cursors -/

/-- The characters of a text that are at hand, and what is wrong with those after them,
if anything is. -/
structure Supply where
  chars : List Char
  failure : Option Failure

/-- A place in a document and the text from there on.  `index` counts the characters
before it and `seen` those that have been looked at.  Of a text that is not all at
hand, `shortage` holds the number of characters that are, and what is wrong after
them. -/
structure Cursor where
  rest : List Char
  index : Nat
  mark : Mark
  seen : Nat
  shortage : Option (Nat × Failure)
deriving Repr, Inhabited

namespace Cursor

/-- The beginning of a text. -/
def start (supply : Supply) : Cursor where
  rest := supply.chars
  index := 0
  mark := ⟨0, 0⟩
  seen := 0
  shortage := supply.failure.map fun failure => (supply.chars.length, failure)

/-! ## Looking ahead -/

/-- The cursor after a look at the next characters. -/
def look (cursor : Cursor) (n : Nat) : Cursor :=
  { cursor with seen := max cursor.seen (cursor.index + n) }

/-- What is wrong with the text, if that has been looked at. -/
def failure? (cursor : Cursor) : Option Failure :=
  match cursor.shortage with
  | some (count, failure) => if count < cursor.seen then some failure else none
  | none => none

/-! ## Moving -/

/-- The column of the place reached. -/
def column (cursor : Cursor) : Nat := cursor.mark.column

/-- The next character, if the text goes on. -/
def peek (cursor : Cursor) : Option Char := cursor.rest.head?

/-- The character some places further on, if the text goes on that far. -/
def peekAt (cursor : Cursor) (n : Nat) : Option Char := cursor.rest[n]?

/-- The place after a character.  A byte order mark takes no column. -/
def advance (mark : Mark) (c : Char) : Mark :=
  if isBreak c then ⟨mark.line + 1, 0⟩
  else if c = '\uFEFF' then mark
  else { mark with column := mark.column + 1 }

/-- The cursor after the next character, with a look at the one that follows. -/
def next (cursor : Cursor) : Cursor :=
  match cursor.rest with
  | [] => cursor
  | c :: rest =>
    { cursor.look 2 with
      rest := rest
      index := cursor.index + 1
      mark := advance cursor.mark c }

/-- The cursor after some characters. -/
def skip (cursor : Cursor) : (n : Nat) → Cursor
  | 0 => cursor
  | n + 1 => cursor.next.skip n

/-- The next characters of a class, and the cursor after them. -/
def run (cursor : Cursor) (p : Char → Bool) : List Char × Cursor :=
  let taken := cursor.rest.takeWhile p
  (taken, cursor.skip taken.length)

/-- The cursor after the next characters of a class. -/
def skipWhile (cursor : Cursor) (p : Char → Bool) : Cursor := (cursor.run p).2

/-- The cursor after the next spaces. -/
def skipSpaces (cursor : Cursor) : Cursor := cursor.skipWhile (· == ' ')

/-- The cursor after spaces, as long as its column is below a limit. -/
def skipIndent (cursor : Cursor) (limit : Nat) : Cursor :=
  let spaces := (cursor.rest.takeWhile (· == ' ')).length
  cursor.skip (min spaces (limit - cursor.column))

/-- The line break that comes next, and the cursor after it.  All breaks but the
separators of lines and paragraphs are read as a line feed. -/
def lineBreak? (cursor : Cursor) : Option (Char × Cursor) :=
  match cursor.peek with
  | some c =>
    if c = '\u2028' ∨ c = '\u2029' then some (c, cursor.next)
    else if isBreak c then some ('\n', cursor.next)
    else none
  | none => none

/-- The cursor after the rest of a comment, if one starts here. -/
def skipComment (cursor : Cursor) : Cursor :=
  if cursor.peek = some '#' then cursor.skipWhile fun c => !isBreak c else cursor

/-- Whether a marker of three characters, `---` or `...`, stands here. -/
def hasMarker (cursor : Cursor) (mark : Char) : Bool :=
  cursor.rest.take 3 == [mark, mark, mark] && isGapOrEnd (cursor.peekAt 3)

/-- Whether a document starts or ends here. -/
def hasDocumentMarker (cursor : Cursor) : Bool := cursor.hasMarker '-' || cursor.hasMarker '.'

/-- The cursor after a look at the marker that may stand here, and at the character
after it if it is one. -/
def lookAtMarker (cursor : Cursor) : Cursor :=
  let word := cursor.rest.take 3
  cursor.look (if word = ['-', '-', '-'] ∨ word = ['.', '.', '.'] then 4 else 3)

/-! ## Problems -/

/-- A failure here, unless what is wrong with the text comes before it. -/
def fail {α : Type} (cursor : Cursor) (failure : Failure) : Except Failure α :=
  .error (cursor.failure?.getD failure)

/-- The problem that something is wrong here. -/
def problem {α : Type} (cursor : Cursor) (text : String) : Except Failure α :=
  cursor.fail (.problem text cursor.mark)

/-- The problem that something else was expected here. -/
def unexpected {α : Type} (cursor : Cursor) (expected : String) : Except Failure α :=
  cursor.problem (expected ++ ", but found " ++ shown cursor.peek)

end Cursor

end MailConnection.Yaml
