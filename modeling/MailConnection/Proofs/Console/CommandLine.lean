import MailConnection.Console.Run

/-!
# Command lines that are read as they stand

Reading a command line is full of rules about hyphens.  None of them matters to words that
start with no hyphen: such a word is never an option, whatever else it holds, and so a
connection string can be given to a command without further ado.

`read_switches_operand` says this of one command, which may be given switches before its
operand, and `Command.read_decode` and `Command.read_list` of the program, with or without the
switch that asks for notes.
-/

namespace MailConnection.Console

/-! ## Words -/

/-- A word that starts with no hyphen. -/
def isPlain (text : String) : Bool := text.toList.head? != some '-'

theorem classify_of_isPlain {command : CommandForm} {text : String} (h : isPlain text = true) :
    Word.classify command text = .ok .plain := by
  unfold Word.classify
  split
  · rfl
  · rename_i rest _ htext
    simp [isPlain, htext] at h
  · rfl

theorem ne_separator_of_isPlain {text : String} (h : isPlain text = true) : text ≠ "--" := by
  rintro rfl
  exact absurd h (by decide)

theorem words_of_isPlain {command : CommandForm} {texts : List String}
    (h : ∀ text ∈ texts, isPlain text = true) :
    words command texts = .ok (texts.map fun text => ⟨text, .plain⟩) := by
  induction texts with
  | nil => rfl
  | cons text rest ih =>
    have htext := h text List.mem_cons_self
    have hrest := ih fun other hother => h other (List.mem_cons_of_mem text hother)
    rw [words, if_neg (ne_separator_of_isPlain htext), classify_of_isPlain htext, hrest]
    rfl

/-- A word is the name of a switch that goes together with every other option. -/
structure IsSwitch (command : CommandForm) (text : String) (option : OptionForm) : Prop where
  classify : Word.classify command text = .ok (.option (some option) text none)
  ne_separator : text ≠ "--"
  kind : option.kind = .switch
  group : option.group = none

/-- A switch as a word of a command line. -/
def switchWord (option : OptionForm) (text : String) : Word :=
  ⟨text, .option (some option) text none⟩

section
variable {command : CommandForm} {option : OptionForm} {switches : List String}

theorem words_switches_append (h : ∀ text ∈ switches, IsSwitch command text option)
    {rest : List String} {others : List Word} (hrest : words command rest = .ok others) :
    words command (switches ++ rest) = .ok (switches.map (switchWord option) ++ others) := by
  induction switches with
  | nil => exact hrest
  | cons text later ih =>
    have htext := h text List.mem_cons_self
    have hlater := ih fun other hother => h other (List.mem_cons_of_mem text hother)
    rw [List.cons_append, words, if_neg htext.ne_separator, htext.classify, hlater]
    rfl

/-! ## Reading words -/

theorem readWords_nil (fuel : Nat) (reading : Reading) :
    readWords command fuel reading [] = .ok reading := by
  cases fuel with
  | zero => simp [readWords, leave]
  | succ fuel => rfl

theorem readWords_switch {text : String} (h : IsSwitch command text option) (fuel : Nat)
    (reading : Reading) (rest : List Word) :
    readWords command (fuel + 1) reading (switchWord option text :: rest) =
      readWords command fuel
        { reading with given := reading.given ++ [(option, .switch)] } rest := by
  have hvalue : option.valueName? = none := by rw [OptionForm.valueName?, h.kind]
  -- an option of no group is in conflict with none
  have hnone : (reading.given.find? fun _ => false) = none := by simp
  have htake : reading.take option none =
      .ok { reading with given := reading.given ++ [(option, .switch)] } := by
    simp [Reading.take, h.kind, Reading.add, h.group, hnone]
  -- and a word that is one name is not taken for several options written together
  have halone : ∀ next fuel, (optionsIn command next (fuel + 1) option text none).mapError
      Stop.error = .ok ([(option, none)], false) := by
    intro next fuel
    simp only [optionsIn, hvalue]
    rfl
  simp only [readWords, switchWord, halone, bind, Except.bind, List.foldlM_cons, List.foldlM_nil,
    htake]
  rfl

theorem readWords_switches (h : ∀ text ∈ switches, IsSwitch command text option) (fuel : Nat)
    (reading : Reading) (rest : List Word) :
    readWords command (switches.length + fuel) reading
        (switches.map (switchWord option) ++ rest) =
      readWords command fuel
        { reading with
          given := reading.given ++ switches.map fun _ => (option, .switch) } rest := by
  induction switches generalizing reading with
  | nil => simp
  | cons text later ih =>
    have hlater := ih fun other hother => h other (List.mem_cons_of_mem text hother)
    have hfuel : (text :: later).length + fuel = later.length + fuel + 1 := by
      rw [List.length_cons]
      omega
    rw [hfuel, List.map_cons, List.cons_append, readWords_switch (h text List.mem_cons_self),
      hlater]
    simp

theorem operandWords?_plain {operand : OperandForm} {name : String} {rest : List String}
    (hname : operand.choices = [] ∧ rest = [] ∨ name ∈ operand.choices.map Prod.fst) :
    operandWords? operand ((name :: rest).map fun text => ⟨text, .plain⟩) =
      some (name :: rest, []) := by
  have hmap : (rest.map fun text => (⟨text, .plain⟩ : Word)).map Word.text = rest := by
    simp [Function.comp_def]
  have hkind : ((WordKind.plain == .separator) : Bool) = false := rfl
  simp only [operandWords?, List.map_cons, List.takeWhile_cons, List.dropWhile_cons, hkind,
    Word.isOption, Bool.false_eq_true, if_false, List.map_nil, List.nil_append, hmap]
  rcases hname with ⟨hchoices, rfl⟩ | hname
  · simp [hchoices]
  · rw [if_neg]
    intro hchoices
    simp [hchoices] at hname

/-- The operand takes the words that stand at its place: all of them if it is one of some
commands, and else the only one. -/
theorem readWords_operand {operand : OperandForm} (hoperand : command.operand = some operand)
    {reading : Reading} (hreading : reading.operand = none) {name : String} {rest : List String}
    (hname : operand.choices = [] ∧ rest = [] ∨ name ∈ operand.choices.map Prod.fst)
    (fuel : Nat) :
    readWords command (fuel + 1) reading ((name :: rest).map fun text => ⟨text, .plain⟩) =
      .ok { reading with operand := some (name :: rest) } := by
  have hchosen : ¬ (operand.choices.map Prod.fst ≠ [] ∧ ¬ name ∈ operand.choices.map Prod.fst) := by
    rintro ⟨hsome, hnot⟩
    rcases hname with ⟨hchoices, _⟩ | hname
    · simp [hchoices] at hsome
    · exact hnot hname
  have hhere : operandHere command reading ((name :: rest).map fun text => ⟨text, .plain⟩) =
      .ok (some ({ reading with operand := some (name :: rest) }, [])) := by
    simp only [operandHere, hoperand, hreading, operandWords?_plain hname]
    exact if_neg hchosen
  simp only [List.map_cons] at hhere ⊢
  simp only [readWords, hhere]
  exact readWords_nil fuel _

/-- **Switches and an operand are read as they stand.** -/
theorem read_switches_operand {operand : OperandForm} (hoperand : command.operand = some operand)
    (hrequired : ∀ other ∈ command.options, other.required = false)
    (hswitches : ∀ text ∈ switches, IsSwitch command text option)
    {name : String} {rest : List String}
    (hname : operand.choices = [] ∧ rest = [] ∨ name ∈ operand.choices.map Prod.fst)
    (hplain : ∀ text ∈ name :: rest, isPlain text = true) :
    read command (switches ++ name :: rest) =
      .ok ⟨switches.map fun _ => (option, .switch), some (name :: rest), []⟩ := by
  have hwords := words_switches_append hswitches (words_of_isPlain hplain)
  -- each switch takes a unit of the fuel, and the operand takes one for all of its words
  have hfuel : (switches.map (switchWord option) ++
      (name :: rest).map fun text => (⟨text, .plain⟩ : Word)).length + 1 =
        switches.length + (rest.length + 1 + 1) := by
    simp
    omega
  have hmissing : missingNames command
      ⟨switches.map fun _ => (option, .switch), some (name :: rest), []⟩ = [] := by
    simp only [missingNames, hoperand, reduceCtorEq, and_false, if_false, List.nil_append,
      List.map_eq_nil_iff, List.filter_eq_nil_iff]
    intro other hother
    simp [hrequired other hother]
  have hall : (words command (switches ++ name :: rest)).mapError Stop.error = .ok
      (switches.map (switchWord option) ++
        (name :: rest).map fun text => (⟨text, .plain⟩ : Word)) := by
    rw [hwords]
    rfl
  simp only [read, hall, bind, Except.bind]
  rw [hfuel, readWords_switches hswitches, readWords_operand hoperand rfl hname]
  simp only [List.nil_append, hmissing]
  rfl

end

/-! ## The program -/

/-- The switch that asks for notes. -/
def verboseOption : OptionForm :=
  ⟨["-v", "--verbose"], .switch, false, none, "Enable debug logging"⟩

theorem isSwitch_verbose {text : String} (h : text = "-v" ∨ text = "--verbose") :
    IsSwitch programForm text verboseOption := by
  rcases h with rfl | rfl
  · exact ⟨rfl, by decide, rfl, rfl⟩
  · exact ⟨rfl, by decide, rfl, rfl⟩

section
variable {switches : List String} (hswitches : ∀ text ∈ switches, text = "-v" ∨ text = "--verbose")
include hswitches

theorem read_programForm {name : String} {rest : List String}
    (hname : name ∈ commandList.map Prod.fst)
    (hplain : ∀ text ∈ name :: rest, isPlain text = true) :
    read programForm (switches ++ name :: rest) =
      .ok ⟨switches.map fun _ => (verboseOption, .switch), some (name :: rest), []⟩ :=
  read_switches_operand rfl (by decide) (fun text htext => isSwitch_verbose (hswitches text htext))
    (.inr hname) hplain

omit hswitches in
theorem has_verbose (operand : Option (List String)) :
    (Reading.mk (switches.map fun _ => (verboseOption, .switch)) operand []).has "-v" =
      !switches.isEmpty := by
  cases switches with
  | nil => rfl
  | cons text later =>
    rw [Reading.has, Reading.last?, Option.isSome_map, List.isEmpty_cons, Bool.not_false,
      List.find?_isSome]
    exact ⟨(verboseOption, .switch), by simp, by decide⟩

/-- A command is read apart from the switches before it. -/
theorem Command.read_switches (unknownPort : Int) {name : String} {rest : List String}
    (hname : name ∈ commandList.map Prod.fst)
    (hplain : ∀ text ∈ name :: rest, isPlain text = true) {inner : Reading}
    (hinner : Console.read (commandOf unknownPort name).1 rest = .ok inner)
    (hleft : inner.leftOver = []) :
    Command.read unknownPort (switches ++ name :: rest) =
      .ok ((commandOf unknownPort name).2 inner, !switches.isEmpty) := by
  simp only [Command.read, readForm, read_programForm hswitches hname hplain, bind, Except.bind,
    List.headD_cons, List.drop_succ_cons, List.drop_zero, hinner, hleft, List.append_nil,
    has_verbose]
  rfl

theorem Command.read_decode (unknownPort : Int) {s : String} (hs : isPlain s = true) :
    Command.read unknownPort (switches ++ ["decode", s]) =
      .ok (.decode s false, !switches.isEmpty) := by
  have hplain : ∀ text ∈ ["decode", s], isPlain text = true := by
    simp only [List.mem_cons, List.not_mem_nil, or_false]
    rintro text (rfl | rfl)
    · rfl
    · exact hs
  have hinner : Console.read decodeForm ([] ++ [s]) =
      .ok ⟨[].map fun _ => (verboseOption, .switch), some [s], []⟩ :=
    read_switches_operand rfl (by decide) (by simp) (.inl ⟨rfl, rfl⟩) (by simpa using hs)
  exact Command.read_switches hswitches unknownPort (by decide) hplain hinner rfl

theorem Command.read_list (unknownPort : Int) :
    Command.read unknownPort (switches ++ ["list"]) = .ok (.list, !switches.isEmpty) :=
  have hinner : Console.read listForm [] = .ok ⟨[], none, []⟩ := rfl
  Command.read_switches hswitches unknownPort (by decide) (by decide) hinner rfl

end

end MailConnection.Console
