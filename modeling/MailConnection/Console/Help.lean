import MailConnection.Console.Form

/-!
# Explaining commands

`usage` shows on a few lines how a command is written, and `explanation` adds what
its operand and options are for.  Everything is laid out in lines of a given width,
`lineWidth`; the explanations stand side by side with what they explain, in a column
that is at most `maxHelpColumn`.
-/

namespace MailConnection.Console

/-- The width of lines in a window with some columns.  Two columns are left empty. -/
def lineWidth (columns : Nat) : Nat := columns - 2

/-- The greatest column in which explanations start.  It leaves twenty columns to them as
long as four are left before it. -/
def maxHelpColumn (width : Nat) : Nat := min 24 (max (width - 20) 4)

/-- The least width of a text, even where lines are narrower. -/
def minTextWidth : Nat := 11

/-! ## Layout -/

/-- Some spaces. -/
def blanks (n : Nat) : String := String.ofList (List.replicate n ' ')

/-- Words after those of a line that is under way, in lines that are indented and end
before a width, as many words in each as fit.  `used` is the width that the line
under way takes. -/
private def fillFrom (width indent : Nat) :
    (used : Nat) → (line : List String) → List String → List (List String)
  | _, line, [] => [line]
  | used, line, word :: rest =>
    if width < used + 1 + word.length then
      line :: fillFrom width indent (indent + word.length) [word] rest
    else fillFrom width indent (used + 1 + word.length) (line ++ [word]) rest

/-- Words in lines that are indented and end before a width. -/
def fill (width indent : Nat) : List String → List String
  | [] => []
  | word :: rest =>
    (fillFrom width indent (indent + word.length) [word] rest).map (" ".intercalate ·)

/-- A word in pieces of a width, the last of which may be shorter. -/
private def pieces (width : Nat) (word : List Char) : List (List Char) :=
  if 0 < width ∧ width < word.length then word.take width :: pieces width (word.drop width)
  else [word]
termination_by word.length
decreasing_by simp only [List.length_drop]; omega

/-- Words after those of a line that is under way.  A word that no line can hold is broken
where the line ends. -/
private def wrapFrom (width : Nat) : (line : List Char) → List (List Char) → List (List Char)
  | line, [] => [line]
  | line, word :: rest =>
    let room := width - (line.length + 1)
    if word.length ≤ room then wrapFrom width (line ++ ' ' :: word) rest
    else
      let (line, word) :=
        if width < word.length ∧ 0 < room then (line ++ ' ' :: word.take room, word.drop room)
        else (line, word)
      let broken := pieces width word
      line :: broken.dropLast ++ wrapFrom width (broken.getLastD []) rest

/-- A text in lines of a width, unless that is too small. -/
def wrap (width : Nat) (text : String) : List String :=
  let width := max width minTextWidth
  match (text.splitOn " ").map String.toList with
  | [] => []
  | word :: rest =>
    let broken := pieces width word
    (broken.dropLast ++ wrapFrom width (broken.getLastD []) rest).map String.ofList

/-! ## Usage -/

/-- How an option is written, with the value that it takes. -/
private def optionUse (option : OptionForm) : List String :=
  option.names.take 1 ++ option.valueName?.toList

/-- The options of a usage text in pieces that stay together.  Options of one group stand
in one pair of brackets, and the value of a required option may stand on the next
line. -/
private def optionPieces : List OptionForm → List String
  | [] => []
  | option :: rest =>
    let others := rest.takeWhile fun other => option.group.isSome && other.group == option.group
    let group := (option :: others).map fun member => " ".intercalate (optionUse member)
    if option.required then optionUse option ++ optionPieces rest
    else ("[" ++ " | ".intercalate group ++ "]") :: optionPieces (rest.drop others.length)
termination_by options => options.length
decreasing_by
  · simp
  · simp only [List.length_drop, List.length_cons]; omega

/-- The commands that an operand may be. -/
private def choicesText (operand : OperandForm) : String :=
  "\x7b" ++ ",".intercalate (operand.choices.map Prod.fst) ++ "\x7d"

/-- The name under which an operand is explained. -/
private def operandTitle (operand : OperandForm) : String :=
  if operand.choices = [] then operand.name else choicesText operand

/-- The operand of a usage text in pieces that stay together. -/
private def operandPieces (operand : OperandForm) : List String :=
  operandTitle operand :: (if operand.choices = [] then [] else ["..."])

/-- How a command is written.  If a single line cannot hold it, options and operands have
lines of their own: beside the program if that is short, below it otherwise. -/
def usage (width : Nat) (command : CommandForm) : String :=
  let start := "usage: "
  let options := optionPieces command.options
  let operands := (command.operand.map operandPieces).getD []
  let line := start ++ " ".intercalate (command.program :: options ++ operands)
  if line.length ≤ width then line ++ "\n"
  else
    let head := start ++ command.program
    let beside : Bool := 4 * head.length ≤ 3 * width
    let indent := if beside then head.length + 1 else start.length
    let together := fill width indent (options ++ operands)
    let lines :=
      if !beside && together.length ≤ 1 then together
      else fill width indent options ++ fill width indent operands
    let nextLine := "\n" ++ blanks indent
    head ++ (if beside then " " else nextLine) ++ nextLine.intercalate lines ++ "\n"

/-! ## Explanations -/

/-- Something that is explained, its indentation and its explanation. -/
structure Entry where
  indent : Nat
  title : String
  help : String
deriving DecidableEq, Repr

/-- An option as it is explained: all its names, each with the value that it takes. -/
private def optionEntry (option : OptionForm) : Entry where
  indent := 2
  title := ", ".intercalate (option.names.map fun name =>
    " ".intercalate (name :: option.valueName?.toList))
  help := option.help

/-- An operand and the commands that it may be. -/
private def operandEntries (operand : OperandForm) : List Entry :=
  ⟨2, operandTitle operand, operand.help⟩ ::
    operand.choices.map fun (name, help) => ⟨4, name, help⟩

/-- The column in which the explanations of some entries start. -/
def helpColumn (width : Nat) (entries : List Entry) : Nat :=
  min (entries.foldl (fun n entry => max n (entry.title.length + 4)) 0) (maxHelpColumn width)

/-- An entry with its explanation in a column. -/
private def entryLines (width column : Nat) (entry : Entry) : List String :=
  let title := blanks entry.indent ++ entry.title
  let lines := wrap (width - column) entry.help
  if title.length + 2 ≤ column then
    match lines with
    | [] => [title]
    | first :: rest =>
      (title ++ blanks (column - title.length) ++ first) :: rest.map (blanks column ++ ·)
  else title :: lines.map (blanks column ++ ·)

/-- A heading with the entries under it. -/
private def part (width column : Nat) (heading : String) (entries : List Entry) : List String :=
  if entries = [] then []
  else ["\n".intercalate (heading :: entries.flatMap (entryLines width column)) ++ "\n"]

/-- How a command is written and what its operand and options are for. -/
def explanation (width : Nat) (command : CommandForm) : String :=
  let operands := (command.operand.map operandEntries).getD []
  let options := command.options.map optionEntry
  let column := helpColumn width (operands ++ options)
  let description :=
    if command.description = "" then []
    else ["\n".intercalate (wrap width command.description) ++ "\n"]
  "\n".intercalate (usage width command :: description ++
    part width column "positional arguments:" operands ++ part width column "options:" options)

end MailConnection.Console
