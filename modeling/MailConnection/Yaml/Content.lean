import MailConnection.Yaml.Node
import MailConnection.Yaml.Scalar

/-!
# The value of a document

A document is converted level by level, the root first.  Each node gets a `Draft`
when it is met for the first time: a scalar its value, a collection an empty draft
that the next level fills.  The first node that does not have the content that its
tag asks for is reported.  `Document.value` then puts the drafts together.

Before a mapping is filled it takes over the entries of others that it names with the
key `<<` (`merge`); its own entries come after them and so win.  This changes the
nodes of the document: whoever meets such a mapping later finds the merged entries,
and finds its keys `=` to be texts.

A node that contains itself is put in with its collections empty.
-/

namespace MailConnection.Yaml

/-! ## Drafts -/

/-- What is known of the value of a node.  Other nodes are given by their numbers; the
keys of a mapping and the members of a set are values already. -/
inductive Draft where
  | scalar (value : Value)
  | items (nodes : List Nat)
  | pairs (nodes : List (Nat × Nat))
  | members (keys : List Value)
  | entries (nodes : List (Value × Nat))
deriving Repr, Inhabited

/-- The draft of a collection before it is filled. -/
def Draft.ofTag? : Tag → Option Draft
  | .seq => some (.items [])
  | .orderedMap => some (.pairs [])
  | .pairs => some (.pairs [])
  | .set => some (.members [])
  | .map => some (.entries [])
  | _ => none

/-- Where a conversion stands: the nodes, their drafts, and the collections to be filled
next, the last one first.  `mergeLimit` is the number of entries that the document had
at first. -/
structure Conversion where
  nodes : Array Node
  drafts : Array (Option Draft)
  waiting : List Nat
  mergeLimit : Nat

/-- A step of a conversion, which may fail. -/
abbrev Convert (α : Type) := StateT Conversion (Except Failure) α

namespace Convert

/-! ## Nodes -/

/-- The node with a number. -/
private def nodeAt (number : Nat) : Convert Node := return (← get).nodes.getD number default

/-- The entries of a mapping; other nodes have none. -/
private def entriesAt (number : Nat) : Convert (List (Nat × Nat)) := do
  match (← nodeAt number).content with
  | .mapping entries => return entries
  | _ => return []

/-- Change a node. -/
private def change (number : Nat) (f : Node → Node) : Convert Unit :=
  modify fun conversion => { conversion with nodes := conversion.nodes.modify number f }

/-- Give a mapping other entries. -/
private def setEntries (number : Nat) (entries : List (Nat × Nat)) : Convert Unit :=
  change number fun node => { node with content := .mapping entries }

/-- Write down the draft of a node. -/
private def note (number : Nat) (draft : Draft) : Convert Unit :=
  modify fun conversion =>
    { conversion with drafts := conversion.drafts.setIfInBounds number (some draft) }

/-- The problem that a node is of the wrong kind. -/
private def wrongKind {α : Type} (expected : String) (node : Node) : Convert α :=
  throw (.problem (expected ++ ", but found " ++ node.kind) node.mark)

/-! ## Scalars -/

/-- The text of a node that has to be a scalar.  A mapping stands for the value of its
first entry with the key `=`. -/
private def scalarText : (fuel : Nat) → Node → Convert String
  | 0, node => wrongKind "expected a scalar node" node
  | fuel + 1, node => do
    let nodes := (← get).nodes
    match node.content with
    | .scalar text => return text
    | .mapping entries =>
      match entries.find? fun entry => (nodes.getD entry.1 default).tag == .value with
      | some (_, value) => scalarText fuel (nodes.getD value default)
      | none => wrongKind "expected a scalar node" node
    | .sequence _ => wrongKind "expected a scalar node" node

/-- Whether a tag is one that no node may have in the end. -/
private def isUnknown : Tag → Bool
  | .merge => true
  | .value => true
  | .other _ => true
  | _ => false

/-- The value of a node that is no collection. -/
private def scalarOf (node : Node) : Convert Value := do
  let text ← if isUnknown node.tag then pure ""
    else scalarText ((← get).nodes.size + 1) node
  match node.tag, node.content with
  | .timestamp, .mapping _ => throw (.conversion .momentOfMapping)
  | tag, _ => scalarValue node.mark tag text

/-! ## Meeting nodes -/

/-- Meet a node: convert a scalar, and put a collection off to the next level. -/
private def meet (number : Nat) : Convert Unit := do
  let conversion ← get
  if (conversion.drafts.getD number none).isSome then return ()
  else
    let node ← nodeAt number
    match Draft.ofTag? node.tag with
    | some draft => do
      note number draft
      modify fun conversion => { conversion with waiting := number :: conversion.waiting }
    | none => note number (.scalar (← scalarOf node))

/-- Meet the key and the value of an entry, and give the key.  A collection is no key. -/
private def meetEntry (entry : Nat × Nat) : Convert (Value × Nat) := do
  meet entry.1
  match (← get).drafts.getD entry.1 none with
  | some (.scalar key) => do
    meet entry.2
    return (key, entry.2)
  | _ => throw (.problem "found unhashable key" (← nodeAt entry.1).mark)

/-- Meet an item of an ordered mapping, which is a mapping with one entry. -/
private def meetPair (number : Nat) : Convert (Nat × Nat) := do
  let item ← nodeAt number
  match item.content with
  | .mapping [(key, value)] => do
    meet key
    meet value
    return (key, value)
  | .mapping entries =>
    throw (.problem ("expected a single mapping item, but found " ++ toString entries.length ++
      " items") item.mark)
  | _ => wrongKind "expected a mapping of length 1" item

/-! ## Merged mappings -/

/-- Whether the key of an entry is `<<`. -/
private def isMerge (nodes : Array Node) (entry : Nat × Nat) : Bool :=
  (nodes.getD entry.1 default).tag == .merge

/-- Make the keys `=` of some entries texts. -/
private def makeTexts (entries : List (Nat × Nat)) : Convert Unit :=
  entries.forM fun entry => change entry.1 fun node =>
    if node.tag = .value then { node with tag := .str } else node

/-- The entries that the value of a key `<<` gives.  `mergeIn` merges a mapping. -/
private def sourceEntries (mergeIn : Nat → Convert Unit) (number : Nat) :
    Convert (List (Nat × Nat)) := do
  let node ← nodeAt number
  match node.content with
  | .mapping _ => do
    mergeIn number
    entriesAt number
  | .sequence items => do
    let sources ← items.mapM fun item => do
      let source ← nodeAt item
      match source.content with
      | .mapping _ => do
        mergeIn item
        entriesAt item
      | _ => wrongKind "expected a mapping for merging" source
    return sources.reverse.flatten
  | .scalar _ => wrongKind "expected a mapping or list of mappings for merging" node

/-- Take over the entries of other mappings into a mapping.  The entries before `index`
have been looked at, and `taken` are those taken over so far.  Each round removes an
entry of the document with the key `<<`, and so may go on in the mapping itself when
it is one of the others. -/
private def mergeFrom : (fuel : Nat) → (number index : Nat) → (taken : List (Nat × Nat)) →
    Convert Unit
  | 0, _, _, _ => return ()
  | fuel + 1, number, index, taken => do
    let nodes := (← get).nodes
    let entries ← entriesAt number
    let plain := (entries.drop index).takeWhile fun entry => !isMerge nodes entry
    makeTexts plain
    let index := index + plain.length
    match entries[index]? with
    | none => if taken ≠ [] then setEntries number (taken ++ entries)
    | some (_, source) => do
      setEntries number (entries.eraseIdx index)
      let more ← sourceEntries (fun other => mergeFrom fuel other 0 []) source
      mergeFrom fuel number index (taken ++ more)

/-- The entries of a node that has to be a mapping, merged ones included. -/
private def mappingEntries (number : Nat) : Convert (List (Nat × Nat)) := do
  let node ← nodeAt number
  match node.content with
  | .mapping _ => do
    mergeFrom ((← get).mergeLimit + 1) number 0 []
    entriesAt number
  | _ => wrongKind "expected a mapping node" node

/-! ## Levels -/

/-- Fill a collection, and meet the nodes in it. -/
private def fill (number : Nat) : Convert Unit := do
  let node ← nodeAt number
  match node.tag, node.content with
  | .seq, .sequence items => do
    items.forM meet
    note number (.items items)
  | .seq, _ => wrongKind "expected a sequence node" node
  | .set, _ => do
    let entries ← (← mappingEntries number).mapM meetEntry
    note number (.members ((Value.ofEntries entries).map Prod.fst))
  | .map, _ => do
    let entries ← (← mappingEntries number).mapM meetEntry
    note number (.entries (Value.ofEntries entries))
  | _, .sequence items => note number (.pairs (← items.mapM meetPair))
  | _, _ => wrongKind "expected a sequence" node

/-- Fill the collections that wait, level by level. -/
private def levels : (fuel : Nat) → Convert Unit
  | 0 => return ()
  | fuel + 1 => do
    let waiting := (← get).waiting
    if waiting ≠ [] then
      modify fun conversion => { conversion with waiting := [] }
      waiting.reverse.forM fill
      levels fuel

/-- Draft the values of all nodes in and below the root. -/
def draft (root : Nat) : Convert Unit := do
  meet root
  levels ((← get).nodes.size + 1)

end Convert

/-! ## Putting together -/

namespace Draft

/-- The value of a draft whose collections are left empty. -/
def bare : Draft → Value
  | .scalar value => value
  | .items _ => .list []
  | .pairs _ => .list []
  | .members keys => .list keys
  | .entries _ => .record []

/-- The value of a draft, given what its nodes become. -/
def build {m : Type → Type} [Monad m] (valueOf : Nat → m Value) : Draft → m Value
  | .scalar value => return value
  | .items nodes => return .list (← nodes.mapM valueOf)
  | .pairs nodes => do
    let pairs ← nodes.mapM fun (key, value) => do
      return Value.list [← valueOf key, ← valueOf value]
    return .list pairs
  | .members keys => return .list keys
  | .entries nodes => do
    let entries ← nodes.mapM fun (key, value) => return (key, ← valueOf value)
    return .record entries

/-- The value of a node, and those of all nodes that have been put together.  Inside
itself a node counts as put together with its collections empty. -/
private def valueOf (drafts : Array (Option Draft)) :
    (fuel : Nat) → (number : Nat) → StateM (Array (Option Value)) Value
  | 0, _ => return .null
  | fuel + 1, number => do
    match (← get).getD number none with
    | some value => return value
    | none => do
      let draftOf := fun (number : Nat) => (drafts.getD number none).getD default
      let within := Id.run ((draftOf number).build fun other => pure (draftOf other).bare)
      modify fun values => values.setIfInBounds number (some within)
      let value ← (draftOf number).build (valueOf drafts fuel)
      modify fun values => values.setIfInBounds number (some value)
      return value

end Draft

/-- The number of entries of all mappings of a document. -/
private def Document.entryCount (document : Document) : Nat :=
  document.nodes.foldl (fun n node => match node.content with
    | .mapping entries => n + entries.length
    | _ => n) 0

/-- The value of a document. -/
def Document.value (document : Document) : Except Failure Value := do
  let size := document.nodes.size
  let conversion : Conversion :=
    { nodes := document.nodes
      drafts := Array.replicate size none
      waiting := []
      mergeLimit := document.entryCount }
  let ((), conversion) ← (Convert.draft document.root).run conversion
  let build := Draft.valueOf conversion.drafts (size + 1) document.root
  return (build.run (Array.replicate size none)).1

/-! ## Whole texts -/

/-- The text with every line break that a carriage return takes part in as a line
feed. -/
def withLineFeeds : List Char → List Char
  | [] => []
  | '\r' :: '\n' :: rest => '\n' :: withLineFeeds rest
  | '\r' :: rest => '\n' :: withLineFeeds rest
  | c :: rest => c :: withLineFeeds rest

/-- A character that a document may hold. -/
def isAllowed (c : Char) : Bool :=
  let n := c.toNat
  c == '\t' || c == '\n' || c == '\x85' || (0x20 ≤ n && n ≤ 0x7E) || (0xA0 ≤ n && n ≤ 0xFFFD) ||
    0x10000 ≤ n

/-- The number of characters of a block of text. -/
def blockSize : Nat := 4096

/-- The characters of a text that are at hand.  A text is taken in block by block, the
first two blocks at once, and a character that no document may hold is noticed when
its block is taken in. -/
def supply (cs : List Char) : Except Failure Supply :=
  match cs.findIdx? fun c => !isAllowed c with
  | none => .ok ⟨cs, none⟩
  | some position =>
    let failure := Failure.character (cs[position]?.getD '\x00') position
    let block := position / blockSize
    if block < 2 then .error failure else .ok ⟨cs.take (block * blockSize), some failure⟩

/-- The value of a text that is a document; an empty document is null. -/
def read (text : String) : Except Failure Value := do
  match ← Document.read? (← supply (withLineFeeds text.toList)) with
  | none => return .null
  | some document => document.value

end MailConnection.Yaml
