import MailConnection.Yaml.Tag
import MailConnection.Yaml.Token.Stream

/-!
# Nodes of a document

A document is a graph of nodes: scalars, sequences and mappings.  The nodes have
numbers, and a collection holds the numbers of its nodes.  So an alias is no more than
a second use of a number; it may even stand inside the node that it means.  No two
nodes of a document have the same anchor.

`Document.read?` builds the graph from the tokens of a text, each reader taking the
tokens of what it is named for.  The first token that does not fit is reported, and
so is the failure behind the last token when the tokens do not suffice.  Collections
may be nested at most `maxDepth` deep.
-/

namespace MailConnection.Yaml

/-! ## The graph -/

/-- What a node holds: a text, or the numbers of other nodes. -/
inductive Content where
  | scalar (text : String)
  | sequence (items : List Nat)
  | mapping (entries : List (Nat × Nat))
deriving Repr, Inhabited

/-- A node: where it starts, its tag and its content. -/
structure Node where
  mark : Mark
  tag : Tag
  content : Content
deriving Repr, Inhabited

/-- The word for the kind of a node. -/
def Node.kind (node : Node) : String :=
  match node.content with
  | .scalar _ => "scalar"
  | .sequence _ => "sequence"
  | .mapping _ => "mapping"

/-- The only document of a text: its nodes and the number of its root. -/
structure Document where
  nodes : Array Node
  root : Nat
deriving Repr

/-! ## Reading tokens -/

/-- How deep collections may be nested. -/
def maxDepth : Nat := 487

/-- The tokens that are left, what went wrong behind them, the number of collections
around the next token, the nodes so far, the anchors that have occurred, each with the
number of its node, and the meanings of the handles of tags. -/
structure TokenReader where
  tokens : List Token
  failure : Option Failure
  depth : Nat
  nodes : Array Node
  anchors : List (String × Nat)
  handles : List (String × String)

/-- A step that takes tokens and may fail. -/
abbrev Read (α : Type) := StateT TokenReader (Except Failure) α

namespace Read

/-- The next token. -/
def peek : Read Token := do
  let reader ← get
  match reader.tokens, reader.failure with
  | token :: _, _ => return token
  | [], some failure => throw failure
  | [], none => return ⟨.streamEnd, default, default⟩

/-- Pass over the next token. -/
def skip : Read Unit := modify fun reader => { reader with tokens := reader.tokens.drop 1 }

/-- The problem that something is wrong at a place. -/
def problem {α : Type} (text : String) (mark : Mark) : Read α := throw (.problem text mark)

/-- The problem that something else was expected than a token. -/
def unexpected {α : Type} (expected : String) (token : Token) : Read α :=
  problem (expected ++ Text.quotedString token.symbol.name) token.start

/-- What stands in a collection. -/
def inside {α : Type} (read : Read α) : Read α := do
  let depth := (← get).depth
  if depth ≥ maxDepth then throw .tooDeep
  modify fun reader => { reader with depth := depth + 1 }
  let result ← read
  modify fun reader => { reader with depth := depth }
  return result

/-! ## Properties -/

/-- The anchor and the tag before a node, and where they start. -/
structure Properties where
  anchor : Option String
  tag : Option String
  start : Option Mark

/-- The text of a tag whose handle has a meaning. -/
private def resolveTag (handle : Option String) (suffix : String) (start : Mark) :
    Read String := do
  match handle with
  | none => return suffix
  | some name =>
    match (← get).handles.find? fun entry => entry.1 == name with
    | some (_, meaning) => return meaning ++ suffix
    | none => problem ("found undefined tag handle " ++ Text.quotedString name) start

/-- An anchor, if one stands here. -/
private def anchorHere : Read (Option String × Option Mark) := do
  let token ← peek
  match token.symbol with
  | .anchor name => do
    skip
    return (some name, some token.start)
  | _ => return (none, none)

/-- A tag, if one stands here, not yet resolved. -/
private def tagHere : Read (Option (Option String × String × Mark)) := do
  let token ← peek
  match token.symbol with
  | .tag handle suffix => do
    skip
    return some (handle, suffix, token.start)
  | _ => return none

/-- The anchor and the tag before a node, in either order. -/
private def properties : Read Properties := do
  let (first, firstStart) ← anchorHere
  let tag ← tagHere
  let (second, _) ←
    if first.isNone && tag.isSome then anchorHere else pure (none, none)
  let start := firstStart <|> tag.map fun parts => parts.2.2
  let text ← match tag with
    | some (handle, suffix, mark) => do
      let text ← resolveTag handle suffix mark
      pure (some text)
    | none => pure none
  return ⟨first <|> second, text, start⟩

/-- Whether the kind of a node is left to its form. -/
private def Properties.isOpen (properties : Properties) : Bool :=
  properties.tag.all (· == "!")

/-- The tag of a collection. -/
private def Properties.collectionTag (properties : Properties) (otherwise : Tag) : Tag :=
  if properties.isOpen then otherwise else (properties.tag.map Tag.ofText).getD otherwise

/-- The tag of a scalar. -/
private def Properties.scalarTag (properties : Properties) (text : String) (plain : Bool) : Tag :=
  match properties.tag with
  | none => if plain then Tag.ofPlain text else .str
  | some tag => if tag = "!" then Tag.ofPlain text else Tag.ofText tag

/-! ## Nodes -/

/-- Add a node, whose anchor must be a new one, and give its number. -/
private def add (anchor : Option String) (node : Node) : Read Nat := do
  let reader ← get
  let number := reader.nodes.size
  if reader.anchors.any fun entry => anchor = some entry.1 then
    problem "second occurrence" node.mark
  else
    let anchors := anchor.toList.map fun name => (name, number)
    set { reader with nodes := reader.nodes.push node, anchors := anchors ++ reader.anchors }
    return number

/-- Give a node its content. -/
private def fill (number : Nat) (content : Content) : Read Nat := do
  modify fun reader =>
    { reader with nodes := reader.nodes.modify number fun node => { node with content := content } }
  return number

/-- The empty scalar that stands where a node is left out. -/
private def emptyScalar (mark : Mark) : Read Nat := add none ⟨mark, .null, .scalar ""⟩

/-- Whether the next token is one of some. -/
private def nextIs (symbols : List Symbol) : Read Bool := do
  let token ← peek
  return symbols.contains token.symbol

mutual

/-- A node.  Outside flow collections it may be a block collection, and as the key or
value of a block mapping also a sequence whose items are not indented. -/
private def node (block unindented : Bool) : (fuel : Nat) → Read Nat
  | 0 => do emptyScalar (← peek).start
  | fuel + 1 => do
    let token ← peek
    match token.symbol with
    | .alias name => do
      skip
      match (← get).anchors.find? fun entry => entry.1 == name with
      | some (_, number) => return number
      | none => problem ("found undefined alias " ++ Text.quotedString name) token.start
    | _ => content block unindented (← properties) fuel

/-- A node after its anchor and tag. -/
private def content (block unindented : Bool) (properties : Properties) : (fuel : Nat) → Read Nat
  | 0 => do emptyScalar (← peek).start
  | fuel + 1 => do
    let token ← peek
    let start := properties.start.getD token.start
    let emptySequence : Node := ⟨start, properties.collectionTag .seq, .sequence []⟩
    let emptyMapping : Node := ⟨start, properties.collectionTag .map, .mapping []⟩
    match token.symbol with
    | .scalar text plain =>
      skip
      add properties.anchor ⟨start, properties.scalarTag text plain, .scalar text⟩
    | .flowSequenceStart =>
      let number ← add properties.anchor emptySequence
      skip
      fill number (.sequence (← inside (flowItems true fuel)))
    | .flowMappingStart =>
      let number ← add properties.anchor emptyMapping
      skip
      fill number (.mapping (← inside (flowEntries true fuel)))
    | symbol =>
      if unindented && symbol == .blockEntry then
        let number ← add properties.anchor emptySequence
        fill number (.sequence (← inside (unindentedItems fuel)))
      else if block && symbol == .blockSequenceStart then
        let number ← add properties.anchor emptySequence
        skip
        fill number (.sequence (← inside (blockItems fuel)))
      else if block && symbol == .blockMappingStart then
        let number ← add properties.anchor emptyMapping
        skip
        fill number (.mapping (← inside (blockEntries fuel)))
      else if properties.start.isSome then
        add properties.anchor ⟨start, properties.scalarTag "" true, .scalar ""⟩
      else unexpected "expected the node content, but found " token

/-- A node, or the empty scalar if one of some tokens stands in its place. -/
private def nodeUnless (absent : List Symbol) (mark : Mark) (block unindented : Bool) :
    (fuel : Nat) → Read Nat
  | 0 => emptyScalar mark
  | fuel + 1 => do
    if ← nextIs absent then emptyScalar mark else node block unindented fuel

/-- The items of a block sequence and its end. -/
private def blockItems : (fuel : Nat) → Read (List Nat)
  | 0 => return []
  | fuel + 1 => do
    let token ← peek
    match token.symbol with
    | .blockEntry => do
      skip
      let item ← nodeUnless [.blockEntry, .blockEnd] token.stop true false fuel
      return item :: (← blockItems fuel)
    | .blockEnd => do
      skip
      return []
    | _ => unexpected "expected <block end>, but found " token

/-- The items of a sequence that is not indented. -/
private def unindentedItems : (fuel : Nat) → Read (List Nat)
  | 0 => return []
  | fuel + 1 => do
    let token ← peek
    match token.symbol with
    | .blockEntry => do
      skip
      let item ← nodeUnless [.blockEntry, .key, .value, .blockEnd] token.stop true false fuel
      return item :: (← unindentedItems fuel)
    | _ => return []

/-- The entries of a block mapping and its end. -/
private def blockEntries : (fuel : Nat) → Read (List (Nat × Nat))
  | 0 => return []
  | fuel + 1 => do
    let token ← peek
    match token.symbol with
    | .blockEnd => do
      skip
      return []
    | .key => do
      skip
      let key ← nodeUnless [.key, .value, .blockEnd] token.stop true true fuel
      let value ← valueOf [.key, .value, .blockEnd] true fuel
      return (key, value) :: (← blockEntries fuel)
    | _ => unexpected "expected <block end>, but found " token

/-- The value after a key: the node after a colon, or nothing. -/
private def valueOf (absent : List Symbol) (block : Bool) : (fuel : Nat) → Read Nat
  | 0 => do emptyScalar (← peek).start
  | fuel + 1 => do
    let token ← peek
    match token.symbol with
    | .value => do
      skip
      nodeUnless absent token.stop block block fuel
    | _ => emptyScalar token.start

/-- The items of a flow sequence and its closing bracket.  An item may be a mapping of
one entry without braces. -/
private def flowItems (first : Bool) : (fuel : Nat) → Read (List Nat)
  | 0 => return []
  | fuel + 1 => do
    let token ← peek
    if token.symbol = .flowSequenceEnd then do
      skip
      return []
    else
      if !first then
        if token.symbol = .flowEntry then skip
        else unexpected "expected ',' or ']', but got " token
      let token ← peek
      match token.symbol with
      | .flowSequenceEnd => do
        skip
        return []
      | .key => do
        skip
        let absent := [.flowEntry, .flowSequenceEnd]
        let item ← add none ⟨token.start, .map, .mapping []⟩
        let (key, value) ← inside do
          let key ← nodeUnless (.value :: absent) token.stop false false fuel
          let value ← valueOf absent false fuel
          pure (key, value)
        let item ← fill item (.mapping [(key, value)])
        return item :: (← flowItems false fuel)
      | _ => do
        let item ← node false false fuel
        return item :: (← flowItems false fuel)

/-- The entries of a flow mapping and its closing brace.  An entry may be a key
alone. -/
private def flowEntries (first : Bool) : (fuel : Nat) → Read (List (Nat × Nat))
  | 0 => return []
  | fuel + 1 => do
    let token ← peek
    if token.symbol = .flowMappingEnd then do
      skip
      return []
    else
      if !first then
        if token.symbol = .flowEntry then skip
        else unexpected "expected ',' or '\x7d', but got " token
      let token ← peek
      match token.symbol with
      | .flowMappingEnd => do
        skip
        return []
      | .key => do
        skip
        let absent := [.flowEntry, .flowMappingEnd]
        let key ← nodeUnless (.value :: absent) token.stop false false fuel
        let value ← valueOf absent false fuel
        return (key, value) :: (← flowEntries false fuel)
      | _ => do
        let key ← node false false fuel
        let value ← emptyScalar (← peek).start
        return (key, value) :: (← flowEntries false fuel)

end

/-! ## Documents -/

/-- The meanings that handles of tags have without a directive. -/
def standardHandles : List (String × String) := [("!", "!"), ("!!", Tag.standardStart)]

/-- Whether a handle has been given a meaning by a directive. -/
private def declares (declared : List (String × String)) (handle : String) : Bool :=
  declared.any fun entry => entry.1 == handle

/-- The directives before a document. -/
private def directives (versioned : Bool) (declared : List (String × String)) :
    (fuel : Nat) → Read (List (String × String))
  | 0 => return declared
  | fuel + 1 => do
    let token ← peek
    match token.symbol with
    | .versionDirective major => do
      skip
      if versioned then problem "found duplicate YAML directive" token.start
      else if major ≠ 1 then
        problem "found incompatible YAML document (version 1.* is required)" token.start
      else directives true declared fuel
    | .tagDirective handle uri => do
      skip
      if declares declared handle then
        problem ("duplicate tag handle " ++ Text.quotedString handle) token.start
      else directives versioned (declared ++ [(handle, uri)]) fuel
    | .otherDirective => do
      skip
      directives versioned declared fuel
    | _ => return declared

/-- The directives of a document and the marker that starts it. -/
private def documentStart (fuel : Nat) : Read Unit := do
  let declared ← directives false [] fuel
  let token ← peek
  if token.symbol ≠ .documentStart then
    unexpected "expected '<document start>', but found " token
  else
    skip
    modify fun reader => { reader with handles := declared ++ standardHandles }

/-- Pass over markers that end a document. -/
private def skipDocumentEnds : (fuel : Nat) → Read Unit
  | 0 => return ()
  | fuel + 1 => do
    if ← nextIs [.documentEnd] then
      skip
      skipDocumentEnds fuel

/-- Whether a token is a directive. -/
private def isDirective : Symbol → Bool
  | .versionDirective _ => true
  | .tagDirective .. => true
  | .otherDirective => true
  | _ => false

/-- The root of the document after its marker; it may be left out. -/
private def markedRoot (fuel : Nat) : Read Nat := do
  let token ← peek
  if isDirective token.symbol ∨
      token.symbol ∈ [Symbol.documentStart, .documentEnd, .streamEnd] then
    emptyScalar token.start
  else node true false fuel

/-- The root of the first document, if there is one. -/
private def root? (fuel : Nat) : Read (Option Nat) := do
  let token ← peek
  if token.symbol = .streamEnd then return none
  else if isDirective token.symbol ∨ token.symbol = .documentStart then
    documentStart fuel
    return some (← markedRoot fuel)
  else return some (← node true false fuel)

/-- The end of the only document. -/
private def onlyDocument (fuel : Nat) : Read Unit := do
  skipDocumentEnds fuel
  let token ← peek
  if token.symbol = .streamEnd then return ()
  else
    documentStart fuel
    problem "but found another document" token.start

end Read

/-- The document that a text holds, if it is not empty. -/
def Document.read? (supply : Supply) : Except Failure (Option Document) := do
  let (tokens, failure) := tokenStream supply
  let fuel := 4 * tokens.length + 8
  let reader : TokenReader := ⟨tokens, failure, 0, #[], [], Read.standardHandles⟩
  let (root?, reader) ← (Read.root? fuel).run reader
  match root? with
  | none => return none
  | some root =>
    let _ ← (Read.onlyDocument fuel).run reader
    return some ⟨reader.nodes, root⟩

end MailConnection.Yaml
