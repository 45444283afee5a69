import MailConnection.Yaml.Cursor

/-!
# Tokens of a document

A document is a row of tokens: marks of its structure, names, tags and scalars.
The structure that indentation expresses is made explicit by tokens of its own,
which start and end block collections.
-/

namespace MailConnection.Yaml

/-- What a token says.  A tag is given by its handle, if it has one, and the text
after it. -/
inductive Symbol where
  | versionDirective (major : Nat)
  | tagDirective (handle uri : String)
  | otherDirective
  | documentStart
  | documentEnd
  | streamEnd
  | blockSequenceStart
  | blockMappingStart
  | blockEnd
  | flowSequenceStart
  | flowSequenceEnd
  | flowMappingStart
  | flowMappingEnd
  | flowEntry
  | blockEntry
  | key
  | value
  | alias (name : String)
  | anchor (name : String)
  | tag (handle : Option String) (suffix : String)
  | scalar (text : String) (plain : Bool)
deriving DecidableEq, Repr, Inhabited

/-- The name of a token in messages. -/
def Symbol.name : Symbol → String
  | .versionDirective _ => "<directive>"
  | .tagDirective .. => "<directive>"
  | .otherDirective => "<directive>"
  | .documentStart => "<document start>"
  | .documentEnd => "<document end>"
  | .streamEnd => "<stream end>"
  | .blockSequenceStart => "<block sequence start>"
  | .blockMappingStart => "<block mapping start>"
  | .blockEnd => "<block end>"
  | .flowSequenceStart => "["
  | .flowSequenceEnd => "]"
  | .flowMappingStart => "\x7b"
  | .flowMappingEnd => "\x7d"
  | .flowEntry => ","
  | .blockEntry => "-"
  | .key => "?"
  | .value => ":"
  | .alias _ => "<alias>"
  | .anchor _ => "<anchor>"
  | .tag .. => "<tag>"
  | .scalar .. => "<scalar>"

/-- A token and where it starts and ends. -/
structure Token where
  symbol : Symbol
  start : Mark
  stop : Mark
deriving DecidableEq, Repr, Inhabited

end MailConnection.Yaml
