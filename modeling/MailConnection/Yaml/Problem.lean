import MailConnection.Text.Integer
import MailConnection.Yaml.Moment

/-!
# What can be wrong with a document

Most errors of a document are problems at a place in it.  A text that holds a
character which no document may hold is refused as a whole, and so is one whose
collections are nested too deep.  Scalars that are declared to be numbers, dates and
the like without being any fail when they are converted, and so do numbers that are
too long.
-/

namespace MailConnection.Yaml

/-- A place in a document.  Lines and columns are counted from zero. -/
structure Mark where
  line : Nat
  column : Nat
deriving DecidableEq, Repr, Inhabited

/-- Why a scalar cannot be converted to what it is declared to be. -/
inductive ConversionError where
  | integer (error : Text.IntegerError)
  | real (text : String)
  | noDigits
  | powerTooLarge
  | truthWord (word : String)
  | momentForm
  | momentOfMapping
  | moment (error : MomentError)
  | codePoint (n : Nat)
deriving DecidableEq, Repr

/-- The words for an error. -/
def ConversionError.message : ConversionError → String
  | .integer error => error.message
  | .real text => "could not convert string to float: " ++ Text.quotedString text
  | .noDigits => "string index out of range"
  | .powerTooLarge => "int too large to convert to float"
  | .truthWord word => Text.quotedString word
  | .momentForm => "'NoneType' object has no attribute 'groupdict'"
  | .momentOfMapping => "expected string or bytes-like object, got 'list'"
  | .moment error => error.message
  | .codePoint n =>
    if n < 0x80000000 then "chr() arg not in range(0x110000)"
    else "Python int too large to convert to C int"

/-- Why a text is not read as a document. -/
inductive Failure where
  | problem (text : String) (mark : Mark)
  | character (c : Char) (position : Nat)
  | conversion (error : ConversionError)
  | tooDeep
deriving DecidableEq, Repr

end MailConnection.Yaml
