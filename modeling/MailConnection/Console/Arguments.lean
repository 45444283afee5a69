import MailConnection.Console.Form
import MailConnection.Text.Integer

/-!
# Reading arguments

The words of a command line are first sorted into options and others (`Word.classify`)
and then taken one after the other (`read`).

* An option may be shortened as long as only one option starts that way, its value
  may follow an equals sign, and short switches may be joined.
* After two hyphens no word is an option.
* A word that starts with a hyphen and is no option of the command is left over,
  unless it is a negative number or holds a space; so are words that nothing
  takes.
-/

namespace MailConnection.Console

/-! ## Errors -/

/-- Why words are no use of a command. -/
inductive UsageError where
  | ambiguous (word : String) (names : List String)
  | ignoredValue (option value : String)
  | valueMissing (option : String)
  | notNumber (option value : String)
  | conflict (option other : String)
  | missing (names : List String)
  | unknownChoice (operand word : String) (choices : List String)
  | leftOver (words : List String)
deriving DecidableEq, Repr

/-- The words for an error, as they stand after the usage line. -/
def UsageError.message : UsageError → String
  | .ambiguous word names =>
    "ambiguous option: " ++ word ++ " could match " ++ ", ".intercalate names
  | .ignoredValue option value =>
    "argument " ++ option ++ ": ignored explicit argument " ++ Text.quotedString value
  | .valueMissing option => "argument " ++ option ++ ": expected one argument"
  | .notNumber option value =>
    "argument " ++ option ++ ": invalid int value: " ++ Text.quotedString value
  | .conflict option other => "argument " ++ option ++ ": not allowed with argument " ++ other
  | .missing names => "the following arguments are required: " ++ ", ".intercalate names
  | .unknownChoice operand word choices =>
    "argument " ++ operand ++ ": invalid choice: " ++ Text.quotedString word ++ " (choose from " ++
      ", ".intercalate (choices.map Text.quotedString) ++ ")"
  | .leftOver words => "unrecognized arguments: " ++ " ".intercalate words

/-- Why the reading of words ends before its end. -/
inductive Stop where
  | help
  | error (error : UsageError)
deriving DecidableEq, Repr

/-! ## Words -/

/-- What a word is.  An option is given with the name that was meant and the value
after an equals sign, if there is one; an unknown option has no form. -/
inductive WordKind where
  | plain
  | separator
  | option (form : Option OptionForm) (name : String) (value : Option String)
deriving DecidableEq, Repr

/-- A word of a command line. -/
structure Word where
  text : String
  kind : WordKind
deriving DecidableEq, Repr

/-- A word that is an option of the command or looks like one. -/
def Word.isOption (word : Word) : Bool := word.kind matches .option ..

/-- The names of the options of a command, each with its option. -/
def optionNames (command : CommandForm) : List (String × OptionForm) :=
  command.options.flatMap fun option => option.names.map fun name => (name, option)

/-- The option with a name. -/
def findOption? (command : CommandForm) (name : String) : Option OptionForm :=
  ((optionNames command).find? fun entry => entry.1 == name).map Prod.snd

/-- A word cut at its first equals sign. -/
def cutValue (word : List Char) : List Char × Option String :=
  match word.findIdx? (· == '=') with
  | some n => (word.take n, some (String.ofList (word.drop (n + 1))))
  | none => (word, none)

/-- Whether a text starts with another one. -/
def startsWith (start : List Char) (text : String) : Bool := start.isPrefixOf text.toList

/-- The options that a word with two hyphens may be short for. -/
def longMatches (command : CommandForm) (word : List Char) : List WordKind :=
  let (start, value) := cutValue word
  (optionNames command).filterMap fun (name, option) =>
    if startsWith start name then some (.option (some option) name value) else none

/-- The options that a word with one hyphen may be: a short one with something after
it, or one that starts with the word. -/
def shortMatches (command : CommandForm) (word : List Char) : List WordKind :=
  (optionNames command).filterMap fun (name, option) =>
    if name.toList = word.take 2 then
      some (.option (some option) name (some (String.ofList (word.drop 2))))
    else if startsWith word name then some (.option (some option) name none)
    else none

/-- Whether a word is a negative number: a hyphen and digits, possibly with a point. -/
private def isNegativeNumber (word : List Char) : Bool :=
  let isDigit := fun c => (Text.decimalValue? c).isSome
  let word := if word.getLast? = some '\n' then word.dropLast else word
  match word with
  | '-' :: body =>
    match body.dropWhile isDigit with
    | [] => body != []
    | '.' :: fraction => fraction != [] && fraction.all isDigit
    | _ => false
  | _ => false

/-- The name of an option, for the list of what an abbreviation could mean. -/
private def WordKind.optionName : WordKind → String
  | .option _ name _ => name
  | _ => ""

/-- What a word with a hyphen at its start is when it is not the name of an option. -/
def classifyHyphen (command : CommandForm) (text : String) : Except UsageError WordKind :=
  let word := text.toList
  let (start, value) := cutValue word
  match value, findOption? command (String.ofList start) with
  | some value, some option => .ok (.option (some option) (String.ofList start) (some value))
  | _, _ =>
    let found :=
      if word.take 2 = ['-', '-'] then longMatches command word else shortMatches command word
    match found with
    | [kind] => .ok kind
    | [] =>
      if isNegativeNumber word ∨ word.contains ' ' then .ok .plain
      else .ok (.option none text none)
    | _ => .error (.ambiguous text (found.map WordKind.optionName))

/-- What a word is for a command. -/
def Word.classify (command : CommandForm) (text : String) : Except UsageError WordKind :=
  match text.toList with
  | ['-'] => .ok .plain
  | '-' :: _ =>
    match findOption? command text with
    | some option => .ok (.option (some option) text none)
    | none => classifyHyphen command text
  | _ => .ok .plain

/-- The words of a command line. -/
def words (command : CommandForm) : List String → Except UsageError (List Word)
  | [] => .ok []
  | text :: rest =>
    if text = "--" then
      .ok (⟨text, .separator⟩ :: rest.map fun other => ⟨other, .plain⟩)
    else do
      let kind ← Word.classify command text
      return ⟨text, kind⟩ :: (← words command rest)

/-! ## What is given -/

/-- What is given with an option.  A value that is nothing but two hyphens is dropped, so
that nothing is left of it. -/
inductive Given where
  | switch
  | text (s : String)
  | number (n : Int)
  | nothing
deriving DecidableEq, Repr

/-- What has been read: options with what is given with them, the words of the operand,
and the words that are left over. -/
structure Reading where
  given : List (OptionForm × Given)
  operand : Option (List String)
  leftOver : List String
deriving DecidableEq, Repr

namespace Reading

/-- What is given last with the option of a name. -/
def last? (reading : Reading) (name : String) : Option Given :=
  (reading.given.reverse.find? fun entry => entry.1.names.contains name).map Prod.snd

/-- Whether the option of a name is given. -/
def has (reading : Reading) (name : String) : Bool := (reading.last? name).isSome

/-- Add an option. -/
def add (reading : Reading) (option : OptionForm) (given : Given) :
    Except Stop Reading :=
  let other? := reading.given.find? fun entry =>
    option.group.isSome && entry.1.group == option.group && entry.1.names != option.names
  match other? with
  | some (other, _) => .error (.error (.conflict option.title other.title))
  | none => .ok { reading with given := reading.given ++ [(option, given)] }

/-- Add an option with its value, or without one. -/
def take (reading : Reading) (option : OptionForm) (value : Option String) :
    Except Stop Reading :=
  match option.kind, value with
  | .help, _ => .error .help
  | .switch, _ => reading.add option .switch
  | _, none => .error (.error (.valueMissing option.title))
  | _, some "--" => reading.add option .nothing
  | .text _, some s => reading.add option (.text s)
  | .number _, some s =>
    match Text.readInteger 10 s with
    | .ok n => reading.add option (.number n)
    | .error _ => .error (.error (.notNumber option.title s))

end Reading

/-! ## Options -/

/-- An option and the value it is given. -/
abbrev Taken := OptionForm × Option String

/-- The options in one word: one, or several short switches that are joined.  `value`
is what the word holds after the first one, and `next` the following word if it
can be a value.  The result says also whether that word is used. -/
def optionsIn (command : CommandForm) (next : Option String) :
    (fuel : Nat) → OptionForm → (name : String) → (value : Option String) →
    Except UsageError (List Taken × Bool)
  | 0, option, _, _ => .ok ([(option, none)], false)
  | fuel + 1, option, name, value =>
    let takesValue := option.valueName?.isSome
    match value with
    | none =>
      if !takesValue then .ok ([(option, none)], false)
      else match next with
        | some word => .ok ([(option, some word)], true)
        | none => .error (.valueMissing option.title)
    | some value =>
      if takesValue then .ok ([(option, some value)], false)
      else
        match name.toList, value.toList with
        | '-' :: second :: _, c :: rest =>
          if second = '-' then .error (.ignoredValue option.title value)
          else
            let joined := String.ofList ['-', c]
            match findOption? command joined with
            | none => .error (.ignoredValue option.title value)
            | some other => do
              let tail := if rest = [] then none else some (String.ofList rest)
              let (others, used) ← optionsIn command next fuel other joined tail
              return ((option, none) :: others, used)
        | _, _ => .error (.ignoredValue option.title value)

/-! ## The operand -/

/-- The words that the operand takes from the next ones, and the words after them. -/
def operandWords? (operand : OperandForm) (next : List Word) :
    Option (List String × List Word) :=
  let isSeparator := fun (word : Word) => word.kind == .separator
  let before := (next.takeWhile isSeparator).map Word.text
  match next.dropWhile isSeparator with
  | [] => none
  | word :: rest =>
    if word.isOption then none
    else if operand.choices = [] then some ([word.text], rest.dropWhile isSeparator)
    else some (before ++ word.text :: rest.map Word.text, [])

/-- The operand, if it has not been read and stands here. -/
def operandHere (command : CommandForm) (reading : Reading) (next : List Word) :
    Except Stop (Option (Reading × List Word)) :=
  match command.operand, reading.operand with
  | some operand, none =>
    match operandWords? operand next with
    | none => .ok none
    | some (taken, rest) =>
      let choices := operand.choices.map Prod.fst
      let chosen := taken.headD ""
      if choices ≠ [] ∧ ¬ chosen ∈ choices then
        .error (.error (.unknownChoice operand.name chosen choices))
      else .ok (some ({ reading with operand := some taken }, rest))
  | _, _ => .ok none

/-! ## All words -/

/-- A word that can be the value of an option. -/
def valueHere (next : List Word) : Option String :=
  match next with
  | word :: _ => if word.kind = .plain then some word.text else none
  | [] => none

/-- The reading with the words that were not taken up. -/
def leave (reading : Reading) (left : List Word) : Reading :=
  { reading with leftOver := reading.leftOver ++ left.map Word.text }

/-- Read the words that are left, one option or operand a step. -/
def readWords (command : CommandForm) :
    (fuel : Nat) → Reading → List Word → Except Stop Reading
  | 0, reading, left => .ok (leave reading left)
  | fuel + 1, reading, next =>
    match next with
    | [] => .ok reading
    | word :: rest =>
      match word.kind with
      | .option none _ _ => readWords command fuel (leave reading [word]) rest
      | .option (some option) name value => do
        let (taken, used) ←
          (optionsIn command (valueHere rest) (word.text.length + 1) option name value).mapError
            Stop.error
        let reading ← taken.foldlM (fun reading entry => reading.take entry.1 entry.2) reading
        readWords command fuel reading (if used then rest.drop 1 else rest)
      | _ => do
        match ← operandHere command reading next with
        | some (reading, rest) => readWords command fuel reading rest
        | none =>
          let left := next.takeWhile fun word => !word.isOption
          readWords command fuel (leave reading left) (next.dropWhile fun word => !word.isOption)

/-- The names of what a command needs and has not been given. -/
def missingNames (command : CommandForm) (reading : Reading) : List String :=
  let operand := match command.operand with
    | some operand =>
      if operand.choices = [] ∧ reading.operand = none then [operand.name] else []
    | none => []
  operand ++ (command.options.filter fun option =>
    option.required && !reading.given.any fun entry => entry.1.names == option.names).map
      OptionForm.title

/-- What the words of a command line say. -/
def read (command : CommandForm) (arguments : List String) : Except Stop Reading := do
  let all ← (words command arguments).mapError Stop.error
  let reading ← readWords command (all.length + 1) ⟨[], none, []⟩ all
  match missingNames command reading with
  | [] => return reading
  | names => throw (.error (.missing names))

end MailConnection.Console
