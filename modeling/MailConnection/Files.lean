import MailConnection.FilePath

/-!
# Files

The configuration is looked for in files.  All that matters of them is what stands
under a path (`FileState`), and which directory relative paths start from; this is
what `Files` tells.  A `FileTree` is a finite collection of files and directories,
all of which may be opened, and `FileTree.files` says what its paths lead to.

Two things that can stand under a path have no state of their own: what is in a
directory that may not be looked into, and a file of octets that are no UTF-8.
-/

namespace MailConnection

/-- What stands under a path: nothing, a directory, a file that may not be opened, or one
with some content.  A path that is too long cannot have anything under it. -/
inductive FileState where
  | absent
  | directory
  | locked
  | text (content : String)
  | nameTooLong
deriving DecidableEq, Repr, Inhabited

/-- What the paths of a file system lead to, and the directory that relative ones
start from. -/
structure Files where
  workingDirectory : FilePath
  state : FilePath → FileState

/-- Files with their contents, and directories, by the names that lead to them from
the root. -/
structure FileTree where
  workingDirectory : FilePath
  entries : List (List String × Option String)
deriving Repr

namespace FileTree

/-- Whether a directory is on the way to some place. -/
private def isAbove (names : List String) (place : List String) : Bool := names.isPrefixOf place

/-- Whether some names lead to a directory: one of the tree, one on the way to an entry
of the tree, or one on the way to the working directory. -/
def isDirectory (tree : FileTree) (names : List String) : Bool :=
  isAbove names tree.workingDirectory.names ||
    tree.entries.any fun (place, content) =>
      if place = names then content.isNone else isAbove names place

/-- The greatest number of octets of a name. -/
def maxNameLength : Nat := 255

/-- The greatest number of octets of a path. -/
def maxPathLength : Nat := 4095

/-- The place that names lead to from a directory, two points leading one step up, or
what is found out on the way to it. -/
private def follow (tree : FileTree) :
    (place : List String) → List String → Except FileState (List String)
  | place, [] => .ok place
  | place, name :: rest =>
    if !tree.isDirectory place then .error .absent
    else if maxNameLength < name.utf8ByteSize then .error .nameTooLong
    else follow tree (if name = ".." then place.dropLast else place ++ [name]) rest

/-- What a path leads to. -/
def state (tree : FileTree) (path : FilePath) : FileState :=
  if maxPathLength < path.text.utf8ByteSize then .nameTooLong
  else match follow tree [] (tree.workingDirectory.join path).names with
    | .error state => state
    | .ok place =>
      match tree.entries.find? fun entry => entry.1 == place with
      | some (_, some content) => .text content
      | _ => if tree.isDirectory place then .directory else .absent

/-- What the paths of a tree lead to. -/
def files (tree : FileTree) : Files := ⟨tree.workingDirectory, tree.state⟩

end FileTree

end MailConnection
