import MailConnection.Text.Split

/-!
# File paths

A path is a root and the names below it.  Reading a path drops empty names and
single points; two points are kept, since what they mean depends on the files.  A
path without a root is relative, and the empty path is the point itself.
-/

namespace MailConnection

/-- A path.  The root is empty, one slash or two slashes. -/
structure FilePath where
  root : String
  names : List String
deriving DecidableEq, Repr, Inhabited

namespace FilePath

/-- The root that a path starts with.  Exactly two slashes are a root of their own. -/
private def rootOf (cs : List Char) : String :=
  match (cs.takeWhile (· == '/')).length with
  | 0 => ""
  | 2 => "//"
  | _ => "/"

/-- The path that a text names. -/
def ofString (s : String) : FilePath where
  root := rootOf s.toList
  names := ((Text.segments '/' s.toList).map String.ofList).filter fun name =>
    name != "" && name != "."

/-- A path as text. -/
def text (path : FilePath) : String :=
  if path.root = "" ∧ path.names = [] then "."
  else path.root ++ "/".intercalate path.names

/-- A path below another one, unless it has a root of its own. -/
def join (base path : FilePath) : FilePath :=
  if path.root = "" then { base with names := base.names ++ path.names } else path

/-- The path of a name below another path. -/
def child (base : FilePath) (name : String) : FilePath := base.join (ofString name)

end FilePath

end MailConnection
