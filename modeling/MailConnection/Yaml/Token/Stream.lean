import MailConnection.Yaml.Token.Property
import MailConnection.Yaml.Token.Scalar

/-!
# The tokens of a document

`tokenStream` cuts a text into tokens.  Two things make this more than a row of
readers.

* **Block collections** have no brackets.  The columns of the open ones are kept on
  a stack; a token further to the right may open one, and a token further to the
  left closes those that it leaves (`State.leave`).
* **Keys** are known for keys only when the colon after them is found.  Whatever may
  turn out to be a key is remembered as a `PendingKey`, one for each depth of flow
  collections, and the tokens that mark a key are put in before it when the colon
  comes.  A pending key is given up at the end of its line or after `maxKeyLength`
  characters.

A failure does not undo the tokens before it: all tokens that stand before the
first pending key are kept, because nothing can be put in before them any more.
-/

namespace MailConnection.Yaml

/-- The greatest number of characters between the start of a key and its colon. -/
def maxKeyLength : Nat := 1024

/-- Something that is a key if a colon follows.  `position` is the number of tokens
before it, `depth` that of the flow collections around it.  It is `required` to be
a key if it stands where a key of the innermost block mapping has to stand. -/
structure PendingKey where
  depth : Nat
  position : Nat
  required : Bool
  index : Nat
  mark : Mark
deriving Repr

/-- Where the cutting stands.  `blocks` are the columns of the open block collections,
innermost first, and `depth` is the number of open flow collections. -/
structure State where
  cursor : Cursor
  tokens : Array Token
  blocks : List Nat
  depth : Nat
  allowKey : Bool
  keys : List PendingKey
  finished : Bool
deriving Repr

namespace State

/-- The state before a text. -/
def start (supply : Supply) : State where
  cursor := Cursor.start supply
  tokens := #[]
  blocks := []
  depth := 0
  allowKey := true
  keys := []
  finished := false

/-! ## Small steps -/

/-- Whether the cutting is inside a flow collection. -/
def inFlow (state : State) : Bool := state.depth != 0

/-- Add a token that starts here and move on. -/
def push (state : State) (symbol : Symbol) (after : Cursor) : State :=
  { state with
    tokens := state.tokens.push ⟨symbol, state.cursor.mark, after.mark⟩
    cursor := after }

/-- Add a token without any text. -/
def pushEmpty (state : State) (symbol : Symbol) : State := state.push symbol state.cursor

/-- Add a token for the next characters. -/
def pushChars (state : State) (symbol : Symbol) (n : Nat) : State :=
  state.push symbol (state.cursor.skip n)

/-- Open a block collection in a column, unless the innermost one stands there or
further to the right. -/
def enter? (state : State) (column : Nat) : Option State :=
  if state.blocks.head?.all (· < column) then
    some { state with blocks := column :: state.blocks }
  else none

/-- Close the block collections to the right of a column; without a column, all. -/
def leave (state : State) (column : Option Nat) : State :=
  if state.inFlow then state
  else
    let left := state.blocks.takeWhile fun block => column.all (· < block)
    left.foldl (fun state _ => state.pushEmpty .blockEnd)
      { state with blocks := state.blocks.drop left.length }

/-! ## Pending keys -/

/-- The problem that a key has no colon. -/
private def missingColon (state : State) : Except Failure State :=
  state.cursor.problem "could not find expected ':'"

/-- Whether a pending key can no longer be a key. -/
def isStale (state : State) (key : PendingKey) : Bool :=
  key.mark.line != state.cursor.mark.line || maxKeyLength < state.cursor.index - key.index

/-- Give up the pending keys that can no longer be keys. -/
def dropStale (state : State) : Except Failure State :=
  if state.keys.any fun key => state.isStale key && key.required then missingColon state
  else .ok { state with keys := state.keys.filter fun key => !state.isStale key }

/-- Give up the pending key of this depth. -/
def dropKey (state : State) : Except Failure State :=
  if state.keys.any fun key => key.depth == state.depth && key.required then missingColon state
  else .ok { state with keys := state.keys.filter fun key => key.depth != state.depth }

/-- Remember that a key may begin here. -/
def noteKey (state : State) : Except Failure State :=
  if state.allowKey then do
    let state ← state.dropKey
    let key : PendingKey :=
      { depth := state.depth
        position := state.tokens.size
        required := !state.inFlow && state.blocks.head? == some state.cursor.column
        index := state.cursor.index
        mark := state.cursor.mark }
    return { state with keys := key :: state.keys }
  else .ok state

/-- Put tokens without text in before the others from a position on. -/
def insertAt (state : State) (position : Nat) (symbols : List Symbol) (mark : Mark) : State :=
  let added := symbols.map fun symbol => (⟨symbol, mark, mark⟩ : Token)
  { state with
    tokens := state.tokens.extract 0 position ++ added.toArray ++
      state.tokens.extract position state.tokens.size }

/-- The tokens before which nothing can be put in any more. -/
def settled (state : State) : List Token :=
  state.tokens.toList.take (state.keys.foldl (fun n key => min n key.position) state.tokens.size)

/-! ## Blanks -/

/-- Go past spaces, comments and line breaks; outside of brackets a new line may
begin a key. -/
private def skipBlankLines : (fuel : Nat) → State → State
  | 0, state => state
  | fuel + 1, state =>
    let cursor := state.cursor.skipSpaces.skipComment
    match cursor.lineBreak? with
    | some (_, cursor) =>
      skipBlankLines fuel
        { state with cursor := cursor, allowKey := state.allowKey || !state.inFlow }
    | none => { state with cursor := cursor }

/-- Move on to the next token. -/
def skipBlanks (state : State) : State :=
  let cursor := state.cursor
  let cursor := if cursor.index = 0 ∧ cursor.peek = some '\uFEFF' then cursor.next else cursor
  skipBlankLines (cursor.rest.length + 1) { state with cursor := cursor }

/-! ## Tokens -/

/-- The end of the text. -/
private def finish (state : State) : Except Failure State := do
  let state ← (state.leave none).dropKey
  return { state.pushEmpty .streamEnd with allowKey := false, keys := [], finished := true }

/-- A directive. -/
private def directive (state : State) : Except Failure State := do
  let state ← (state.leave none).dropKey
  let (symbol, stop, after) ← directiveSymbol state.cursor
  let token : Token := ⟨symbol, state.cursor.mark, stop⟩
  return { state with tokens := state.tokens.push token, cursor := after, allowKey := false }

/-- The marker before or after a document. -/
private def documentMarker (state : State) (symbol : Symbol) : Except Failure State := do
  let state ← (state.leave none).dropKey
  return { state.pushChars symbol 3 with allowKey := false }

/-- The opening bracket of a flow collection. -/
private def openFlow (state : State) (symbol : Symbol) : Except Failure State := do
  let state ← state.noteKey
  return { state.pushChars symbol 1 with depth := state.depth + 1, allowKey := true }

/-- The closing bracket of a flow collection. -/
private def closeFlow (state : State) (symbol : Symbol) : Except Failure State := do
  let state ← state.dropKey
  return { state.pushChars symbol 1 with depth := state.depth - 1, allowKey := false }

/-- A comma. -/
private def flowEntry (state : State) : Except Failure State := do
  let state ← state.dropKey
  return { state.pushChars .flowEntry 1 with allowKey := true }

/-- Open a block collection here if one has to be opened. -/
private def openBlock (state : State) (symbol : Symbol) : State :=
  match state.enter? state.cursor.column with
  | some entered => entered.pushEmpty symbol
  | none => state

/-- The hyphen before an item. -/
private def blockEntry (state : State) : Except Failure State := do
  if !state.inFlow && !state.allowKey then
    state.cursor.problem "sequence entries are not allowed here"
  else
    let state := if state.inFlow then state else openBlock state .blockSequenceStart
    let state ← state.dropKey
    return { state.pushChars .blockEntry 1 with allowKey := true }

/-- The question mark before a key. -/
private def explicitKey (state : State) : Except Failure State := do
  if !state.inFlow && !state.allowKey then
    state.cursor.problem "mapping keys are not allowed here"
  else
    let state := if state.inFlow then state else openBlock state .blockMappingStart
    let state ← state.dropKey
    return { state.pushChars .key 1 with allowKey := !state.inFlow }

/-- The colon after a pending key. -/
private def valueOfKey (state : State) (key : PendingKey) : State :=
  let state :=
    { state with keys := state.keys.filter (fun other => other.depth != state.depth) }
  let (state, symbols) :=
    if state.inFlow then (state, [Symbol.key])
    else match state.enter? key.mark.column with
      | some entered => (entered, [.blockMappingStart, .key])
      | none => (state, [.key])
  { (state.insertAt key.position symbols key.mark).pushChars .value 1 with allowKey := false }

/-- A colon that no pending key stands before. -/
private def valueAlone (state : State) : Except Failure State := do
  if !state.inFlow && !state.allowKey then
    state.cursor.problem "mapping values are not allowed here"
  else
    let state := if state.inFlow then state else openBlock state .blockMappingStart
    let state ← { state with allowKey := !state.inFlow }.dropKey
    return state.pushChars .value 1

/-- The colon before a value. -/
private def valueMark (state : State) : Except Failure State :=
  match state.keys.find? fun key => key.depth == state.depth with
  | some key => .ok (valueOfKey state key)
  | none => valueAlone state

/-- A token that may be a key or a part of one. -/
private def keyPart (state : State) (read : Cursor → Except Failure (Symbol × Cursor)) :
    Except Failure State := do
  let state ← state.noteKey
  let (symbol, after) ← read state.cursor
  return { state.push symbol after with allowKey := false }

/-- A block scalar. -/
private def block (state : State) (fold : Bool) : Except Failure State := do
  let state ← { state with allowKey := true }.dropKey
  let indent := (state.blocks.head?.map (· + 1)).getD 1
  let (text, after) ← blockScalar fold indent state.cursor
  return state.push (.scalar text false) after

/-- A plain scalar. -/
private def plain (state : State) : Except Failure State := do
  let state ← state.noteKey
  let indent := (state.blocks.head?.map (· + 1)).getD 0
  let (text, after, broken) := plainScalar state.inFlow indent state.cursor
  return { state.push (.scalar text true) after with allowKey := broken }

/-- Whether a plain scalar may start with these characters. -/
private def startsPlain (inFlow : Bool) (c : Char) (after : Option Char) : Bool :=
  !(isGap c || isBreak c || "-?:,[]\x7b\x7d#&*!|>'\"%@\x60".toList.contains c) ||
    (!isGapOrEnd after && (c == '-' || (!inFlow && (c == '?' || c == ':'))))

/-- The state after the look ahead that tells what starts with a character. -/
private def lookAhead (state : State) (c : Char) : State :=
  let cursor := state.cursor
  let indicators := if state.inFlow then ['-', '\t', '%', '@', '\x60', '|', '>']
    else ['-', '\t', '%', '@', '\x60', '?', ':']
  let cursor := if cursor.column = 0 ∧ (c = '-' ∨ c = '.') then cursor.lookAtMarker else cursor
  if cursor.column = 0 ∧ c = '%' then state
  else { state with cursor := if indicators.contains c then cursor.look 2 else cursor }

/-- The token that stands here. -/
private def token (state : State) : Except Failure State :=
  let state := match state.cursor.peek with
    | some c => state.lookAhead c
    | none => state
  let cursor := state.cursor
  let after := cursor.peekAt 1
  let apart := state.inFlow || isGapOrEnd after
  match cursor.peek with
  | none => finish state
  | some c =>
    if cursor.column = 0 ∧ c = '%' then directive state
    else if cursor.column = 0 ∧ cursor.hasMarker '-' = true then documentMarker state .documentStart
    else if cursor.column = 0 ∧ cursor.hasMarker '.' = true then documentMarker state .documentEnd
    else if c = '[' then openFlow state .flowSequenceStart
    else if c = '\x7b' then openFlow state .flowMappingStart
    else if c = ']' then closeFlow state .flowSequenceEnd
    else if c = '\x7d' then closeFlow state .flowMappingEnd
    else if c = ',' then flowEntry state
    else if c = '-' ∧ isGapOrEnd after = true then blockEntry state
    else if c = '?' ∧ apart = true then explicitKey state
    else if c = ':' ∧ apart = true then valueMark state
    else if c = '*' then
      keyPart state fun cursor => (anchorName cursor).map fun (name, after) => (.alias name, after)
    else if c = '&' then
      keyPart state fun cursor => (anchorName cursor).map fun (name, after) => (.anchor name, after)
    else if c = '!' then keyPart state tagSymbol
    else if c = '|' ∧ state.inFlow = false then block state false
    else if c = '>' ∧ state.inFlow = false then block state true
    else if c = '\'' ∨ c = '"' then
      keyPart state fun cursor =>
        (quotedScalar (c == '"') cursor).map fun (text, after) => (.scalar text false, after)
    else if startsPlain state.inFlow c after then plain state
    else cursor.problem ("found character " ++ shown (some c) ++ " that cannot start any token")

/-! ## All tokens -/

/-- Cut off the next token. -/
def step (state : State) : Except Failure State := do
  let state ← state.skipBlanks.dropStale
  let state ← token (state.leave (some state.cursor.column))
  match state.cursor.failure? with
  | some failure => throw failure
  | none => if state.finished then return state else state.dropStale

/-- Take steps until the stream ends or one of them fails. -/
private def steps : (fuel : Nat) → State → List Token × Option Failure
  | 0, state => (state.tokens.toList, none)
  | fuel + 1, state =>
    match state.step with
    | .error failure => (state.settled, some failure)
    | .ok state => if state.finished then (state.tokens.toList, none) else steps fuel state

end State

/-- The tokens of a text, and what went wrong after them. -/
def tokenStream (supply : Supply) : List Token × Option Failure :=
  State.steps (supply.chars.length + 2) (State.start supply)

end MailConnection.Yaml
