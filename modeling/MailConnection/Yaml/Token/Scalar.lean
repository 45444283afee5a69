import MailConnection.Yaml.Cursor

/-!
# Scalars

A scalar is written plain, between single or double quotes, or as a block of
indented lines.  Each reader of this module starts at the scalar and gives its text
and the cursor after it.

Line breaks inside scalars are folded: one break becomes a space, and of several
the first one is dropped.  Blocks that start with `|` keep their breaks.
-/

namespace MailConnection.Yaml

/-! ## Folding -/

/-- What a line break and the empty lines after it become. -/
def folded (lineBreak : Char) (breaks : List Char) : List Char :=
  if lineBreak ≠ '\n' then lineBreak :: breaks
  else if breaks = [] then [' ']
  else breaks

/-! ## Quoted scalars -/

/-- The line breaks of empty lines inside quotes, and the blanks around them. -/
private def quotedBreaks : (fuel : Nat) → List Char → Cursor → Except Failure (List Char × Cursor)
  | 0, breaks, cursor => .ok (breaks.reverse, cursor)
  | fuel + 1, breaks, cursor =>
    let cursor := cursor.lookAtMarker
    if cursor.hasDocumentMarker then cursor.problem "found unexpected document separator"
    else
      let cursor := cursor.skipWhile isGap
      match cursor.lineBreak? with
      | some (c, cursor) => quotedBreaks fuel (c :: breaks) cursor
      | none => .ok (breaks.reverse, cursor)

/-- A gap inside quotes: blanks, which are kept, or a line break with all around it,
which is folded. -/
private def quotedGap (cursor : Cursor) : Except Failure (List Char × Cursor) :=
  let (blanks, cursor) := cursor.run isGap
  match cursor.peek with
  | none => cursor.problem "found unexpected end of stream"
  | some _ =>
    match cursor.lineBreak? with
    | none => .ok (blanks, cursor)
    | some (c, cursor) =>
      (quotedBreaks (cursor.rest.length + 1) [] cursor).map fun (breaks, cursor) =>
        (folded c breaks, cursor)

/-- The character that a letter after a backslash stands for. -/
private def escapeOf? (c : Char) : Option Char :=
  match c with
  | '0' => some '\x00'
  | 'a' => some '\x07'
  | 'b' => some '\x08'
  | 't' => some '\t'
  | '\t' => some '\t'
  | 'n' => some '\n'
  | 'v' => some '\x0b'
  | 'f' => some '\x0c'
  | 'r' => some '\r'
  | 'e' => some '\x1b'
  | ' ' => some ' '
  | '"' => some '"'
  | '\\' => some '\\'
  | '/' => some '/'
  | 'N' => some '\x85'
  | '_' => some '\xa0'
  | 'L' => some '\u2028'
  | 'P' => some '\u2029'
  | _ => none

/-- The number of hexadecimal digits after a letter that announces a code point. -/
private def escapeWidth? (c : Char) : Option Nat :=
  match c with
  | 'x' => some 2
  | 'u' => some 4
  | 'U' => some 8
  | _ => none

/-- The character with a code point, if there is one.  Half of a surrogate pair is read
as the replacement character. -/
private def charOfCode? (n : Nat) : Option Char :=
  if 0x10FFFF < n then none
  else if 0xD800 ≤ n ∧ n < 0xE000 then some '\uFFFD'
  else some (Char.ofNat n)

/-- The code point that hexadecimal digits name. -/
private def codeEscape (width : Nat) (cursor : Cursor) : Except Failure (List Char × Cursor) :=
  let digits := cursor.rest.take width
  let good := digits.takeWhile fun c => (Text.hexValue? c).isSome
  let cursor := cursor.look (min width (good.length + 1))
  if good.length < width then
    cursor.problem ("expected escape sequence of " ++ toString width ++
      " hexadecimal numbers, but found " ++ shown (cursor.peekAt good.length))
  else
    let n := digits.foldl (fun n c => n * 16 + (Text.hexValue? c).getD 0) 0
    match charOfCode? n with
    | some c => .ok ([c], cursor.skip width)
    | none => cursor.fail (.conversion (.codePoint n))

/-- What an escape stands for.  The cursor is after the backslash. -/
private def escape (cursor : Cursor) : Except Failure (List Char × Cursor) :=
  match cursor.peek.bind escapeOf?, cursor.peek.bind escapeWidth?, cursor.lineBreak? with
  | some c, _, _ => .ok ([c], cursor.next)
  | none, some width, _ => codeEscape width cursor.next
  | none, none, some (_, cursor) => quotedBreaks (cursor.rest.length + 1) [] cursor
  | none, none, none =>
    cursor.problem ("found unknown escape character " ++ shown cursor.peek)

/-- The next piece of a quoted scalar: a gap, an escape, a doubled quote, or one
character. -/
private def quotedPiece (double : Bool) (cursor : Cursor) : Except Failure (List Char × Cursor) :=
  match cursor.peek with
  | none => quotedGap cursor
  | some c =>
    if isGap c || isBreak c then quotedGap cursor
    else if double && c == '\\' then escape cursor.next
    else if !double && c == '\'' then .ok (['\''], cursor.skip 2)
    else .ok ([c], cursor.next)

/-- Whether the closing quote stands here. -/
private def atClosingQuote (double : Bool) (cursor : Cursor) : Bool :=
  if double then cursor.peek == some '"'
  else cursor.peek == some '\'' && cursor.peekAt 1 != some '\''

/-- The text of a quoted scalar up to its closing quotation mark. -/
private def quotedBody (double : Bool) :
    (fuel : Nat) → List Char → Cursor → Except Failure (List Char × Cursor)
  | 0, text, cursor => .ok (text.reverse, cursor)
  | fuel + 1, text, cursor =>
    if atClosingQuote double cursor then .ok (text.reverse, cursor.next)
    else do
      let (piece, cursor) ← quotedPiece double cursor
      quotedBody double fuel (piece.reverse ++ text) cursor

/-- A scalar between quotes. -/
def quotedScalar (double : Bool) (cursor : Cursor) : Except Failure (String × Cursor) :=
  let inside := cursor.next
  (quotedBody double (inside.rest.length + 1) [] inside).map fun (text, cursor) =>
    (String.ofList text, cursor)

/-! ## Plain scalars -/

/-- A character that ends a plain scalar inside a flow collection. -/
private def endsFlowScalar (c : Char) : Bool :=
  c == ',' || c == '?' || c == '[' || c == ']' || c == '\x7b' || c == '\x7d'

/-- A character after a colon that makes the colon an indicator inside a flow
collection. -/
private def separatesFlow (c : Char) : Bool :=
  c == ',' || c == '[' || c == ']' || c == '\x7b' || c == '\x7d'

/-- The number of characters up to the next blank, break or indicator. -/
private def plainLength (flow : Bool) : List Char → Nat
  | [] => 0
  | c :: rest =>
    if isGap c || isBreak c then 0
    else if c == ':' && (isGapOrEnd rest.head? || (flow && rest.head?.any separatesFlow)) then 0
    else if flow && endsFlowScalar c then 0
    else plainLength flow rest + 1

/-- The line breaks of empty lines in a plain scalar; none of them when a document
marker is among what follows. -/
private def plainBreaks :
    (fuel : Nat) → List Char → Cursor → Option (List Char) × Cursor
  | 0, breaks, cursor => (some breaks.reverse, cursor)
  | fuel + 1, breaks, cursor =>
    let cursor := cursor.lookAtMarker
    if cursor.hasDocumentMarker then (none, cursor)
    else
      let cursor := cursor.skipSpaces
      match cursor.lineBreak? with
      | some (c, cursor) => plainBreaks fuel (c :: breaks) cursor
      | none => (some breaks.reverse, cursor)

/-- A gap in a plain scalar, the cursor after it, and whether a line ends in it.  The
gap is empty if the scalar ends here. -/
private def plainGap (cursor : Cursor) : List Char × Cursor × Bool :=
  let (blanks, cursor) := cursor.run (· == ' ')
  match cursor.lineBreak? with
  | none => (blanks, cursor, false)
  | some (c, cursor) =>
    match plainBreaks (cursor.rest.length + 1) [] cursor with
    | (some breaks, cursor) => (folded c breaks, cursor, true)
    | (none, cursor) => ([], cursor, true)

/-- The cursor after the look behind the colon that may stand here. -/
private def lookBehindColon (cursor : Cursor) : Cursor :=
  if cursor.peek = some ':' then cursor.look 2 else cursor

/-- A plain scalar, its text collected in reverse.  `gap` is what stands between the
text so far and what follows if the scalar goes on. -/
private def plainBody (flow : Bool) (indent : Nat) : (fuel : Nat) → (text gap : List Char) →
    (broken : Bool) → Cursor → List Char × Cursor × Bool
  | 0, text, _, broken, cursor => (text.reverse, cursor, broken)
  | fuel + 1, text, gap, broken, cursor =>
    let length := if cursor.peek = some '#' then 0 else plainLength flow cursor.rest
    let after := lookBehindColon (cursor.skip length)
    if length = 0 then (text.reverse, after, broken)
    else
      let text := (cursor.rest.take length).reverse ++ gap.reverse ++ text
      let (gap, cursor, broken) := plainGap after
      if gap = [] ∨ cursor.peek = some '#' ∨ (!flow && cursor.column < indent) = true then
        (text.reverse, cursor, broken)
      else plainBody flow indent fuel text gap broken cursor

/-- A plain scalar, the cursor after it and the blanks that follow it, and whether a
line ends in these blanks.  `indent` is the least column of the lines that
continue it. -/
def plainScalar (flow : Bool) (indent : Nat) (cursor : Cursor) : String × Cursor × Bool :=
  let (text, cursor, broken) :=
    plainBody flow indent (cursor.rest.length + 1) [] [] false cursor
  (String.ofList text, cursor, broken)

/-! ## Block scalars -/

/-- What happens to the line breaks at the end of a block. -/
inductive Chomping where
  | clip
  | strip
  | keep
deriving DecidableEq, Repr

/-- The chomping that a sign asks for. -/
private def chomping? (cursor : Cursor) : Option Chomping :=
  match cursor.peek with
  | some '+' => some .keep
  | some '-' => some .strip
  | _ => none

/-- The indentation that a digit asks for, if there is one. -/
private def increment (cursor : Cursor) : Except Failure (Option Nat × Cursor) :=
  match cursor.peek with
  | some c =>
    if c = '0' then
      cursor.problem "expected indentation indicator in the range 1-9, but found 0"
    else if c.isDigit then .ok (some (c.toNat - 48), cursor.next)
    else .ok (none, cursor)
  | none => .ok (none, cursor)

/-- The signs after the indicator of a block. -/
private def blockHeader (cursor : Cursor) : Except Failure (Chomping × Option Nat × Cursor) := do
  let (chomping, step, cursor) ← match chomping? cursor with
    | some chomping => do
      let (step, cursor) ← increment cursor.next
      pure (chomping, step, cursor)
    | none => do
      let (step, cursor) ← increment cursor
      match step, chomping? cursor with
      | some _, some chomping => pure (chomping, step, cursor.next)
      | _, _ => pure (.clip, step, cursor)
  if !isSpaceOrEnd cursor.peek then
    cursor.unexpected "expected chomping or indentation indicators"
  else
    let cursor := cursor.skipSpaces.skipComment
    if !isLineEnd cursor.peek then cursor.unexpected "expected a comment or a line break"
    else .ok (chomping, step, (cursor.lineBreak?.map Prod.snd).getD cursor)

/-- The line breaks of empty lines before the first line of a block, and the greatest
indentation among these lines and the first one. -/
private def leadingBreaks : (fuel : Nat) → List Char → (widest : Nat) → Cursor →
    List Char × Nat × Cursor
  | 0, breaks, widest, cursor => (breaks.reverse, widest, cursor)
  | fuel + 1, breaks, widest, cursor =>
    let cursor := cursor.skipSpaces
    let widest := max widest cursor.column
    match cursor.lineBreak? with
    | some (c, cursor) => leadingBreaks fuel (c :: breaks) widest cursor
    | none => (breaks.reverse, widest, cursor)

/-- The line breaks of empty lines in a block, and the cursor in the column of the
block or before it. -/
private def blockBreaks (indent : Nat) : (fuel : Nat) → List Char → Cursor → List Char × Cursor
  | 0, breaks, cursor => (breaks.reverse, cursor)
  | fuel + 1, breaks, cursor =>
    let cursor := cursor.skipIndent indent
    match cursor.lineBreak? with
    | some (c, cursor) => blockBreaks indent fuel (c :: breaks) cursor
    | none => (breaks.reverse, cursor)

/-- What stands between two lines of a block. -/
private def betweenLines (fold : Bool) (lineBreak : Char) (breaks : List Char)
    (before after : Option Char) : List Char :=
  let even := before.all (fun c => !isGap c) && after.all fun c => !isGap c
  if fold && lineBreak == '\n' && even then (if breaks = [] then [' '] else breaks)
  else lineBreak :: breaks

/-- The lines of a block, their text collected in reverse. -/
private def blockBody (fold : Bool) (chomping : Chomping) (indent : Nat) :
    (fuel : Nat) → List Char → Cursor → List Char × Cursor
  | 0, text, cursor => (text.reverse, cursor)
  | fuel + 1, text, cursor =>
    let first := cursor.peek
    let (line, cursor) := cursor.run fun c => !isBreak c
    let text := line.reverse ++ text
    let (ending, cursor) := match cursor.lineBreak? with
      | some (c, cursor) => ([c], cursor)
      | none => ([], cursor)
    let (breaks, cursor) := blockBreaks indent (cursor.rest.length + 1) [] cursor
    if cursor.column = indent ∧ cursor.peek.isSome then
      let between := match ending with
        | [c] => betweenLines fold c breaks first cursor.peek
        | _ => breaks
      blockBody fold chomping indent fuel (between.reverse ++ text) cursor
    else
      let tail := match chomping with
        | .clip => ending
        | .strip => []
        | .keep => ending ++ breaks
      (text.reverse ++ tail, cursor)

/-- A block scalar.  `indent` is the least indentation of its lines, unless a digit in
its header says otherwise. -/
def blockScalar (fold : Bool) (indent : Nat) (cursor : Cursor) :
    Except Failure (String × Cursor) := do
  let (chomping, step, cursor) ← blockHeader cursor.next
  let fuel := cursor.rest.length + 1
  let (breaks, indent, cursor) := match step with
    | none =>
      let (breaks, widest, cursor) := leadingBreaks fuel [] 0 cursor
      (breaks, max indent widest, cursor)
    | some step =>
      let indent := indent + step - 1
      let (breaks, cursor) := blockBreaks indent fuel [] cursor
      (breaks, indent, cursor)
  if cursor.column = indent ∧ cursor.peek.isSome then
    let (text, cursor) := blockBody fold chomping indent fuel breaks.reverse cursor
    return (String.ofList text, cursor)
  else
    return (String.ofList (if chomping = .keep then breaks else []), cursor)

end MailConnection.Yaml
