import MailConnection.Account.Record
import MailConnection.Console.Command
import MailConnection.Proofs.Settings.Loading

/-!
# What a command line gives

However the words of a command line are sorted, what is read from them is in order
(`sound_read`): every option that is given is an option of the command, what is given with it is
of the kind that it takes, and no option is missing that has to be there.  Each step of reading
keeps this of the options read so far (`Reading.Sound.take`, `sound_readWords`), since the words
are options of the command or no options (`known_of_words`).

For the command that writes a connection string it follows that its values are texts and a number,
unless a value was nothing but two hyphens (`exists_required_text`, `exists_optional_text`,
`exists_number`).
-/

namespace MailConnection.Console

/-! ## What an option takes -/

/-- What can be given with an option of a kind. -/
def OptionKind.Takes : OptionKind → Given → Prop
  | .help, _ => False
  | .switch, given => given = .switch
  | .text _, given => given = .nothing ∨ ∃ s, given = .text s
  | .number _, given => given = .nothing ∨ ∃ n, given = .number n

namespace OptionKind

/-- The kinds with a text. -/
def isText (kind : OptionKind) : Bool := kind matches .text _

/-- The kinds with a number. -/
def isNumber (kind : OptionKind) : Bool := kind matches .number _

namespace Takes

variable {kind : OptionKind} {given : Given}

theorem of_isText (h : kind.Takes given) (hkind : kind.isText = true) :
    given = .nothing ∨ ∃ s, given = .text s := by
  cases kind with
  | text _ => exact h
  | _ => cases hkind

theorem of_isNumber (h : kind.Takes given) (hkind : kind.isNumber = true) :
    given = .nothing ∨ ∃ n, given = .number n := by
  cases kind with
  | number _ => exact h
  | _ => cases hkind

end Takes

end OptionKind

/-- A reading gives options of a command, with what they take. -/
def Reading.Sound (command : CommandForm) (reading : Reading) : Prop :=
  ∀ entry ∈ reading.given, entry.1 ∈ command.options ∧ entry.1.kind.Takes entry.2

/-- If a word is an option, it is one of the command. -/
def Word.Known (command : CommandForm) (word : Word) : Prop :=
  ∀ option name value, word.kind = .option (some option) name value → option ∈ command.options

variable {command : CommandForm}

/-! ## Words -/

theorem mem_options_of_mem_optionNames {name : String} {option : OptionForm}
    (h : (name, option) ∈ optionNames command) : option ∈ command.options := by
  obtain ⟨other, hother, hname⟩ := List.mem_flatMap.mp h
  obtain ⟨_, _, hpair⟩ := List.mem_map.mp hname
  obtain rfl : other = option := congrArg Prod.snd hpair
  exact hother

theorem mem_options_of_findOption? {name : String} {option : OptionForm}
    (h : findOption? command name = some option) : option ∈ command.options := by
  obtain ⟨⟨found, _⟩, hfind, rfl⟩ := Option.map_eq_some_iff.mp h
  exact mem_options_of_mem_optionNames (List.mem_of_find?_eq_some hfind)

theorem mem_options_of_longMatches {word : List Char} {option : OptionForm} {name : String}
    {value : Option String} (h : .option (some option) name value ∈ longMatches command word) :
    option ∈ command.options := by
  simp only [longMatches, List.mem_filterMap, Option.ite_none_right_eq_some] at h
  obtain ⟨⟨found, other⟩, hfound, _, hkind⟩ := h
  cases hkind
  exact mem_options_of_mem_optionNames hfound

theorem mem_options_of_shortMatches {word : List Char} {option : OptionForm} {name : String}
    {value : Option String} (h : .option (some option) name value ∈ shortMatches command word) :
    option ∈ command.options := by
  simp only [shortMatches, List.mem_filterMap] at h
  obtain ⟨⟨found, other⟩, hfound, hkind⟩ := h
  split at hkind
  · cases hkind
    exact mem_options_of_mem_optionNames hfound
  · obtain ⟨_, hkind⟩ := Option.ite_none_right_eq_some.mp hkind
    cases hkind
    exact mem_options_of_mem_optionNames hfound

theorem known_of_classifyHyphen {text : String} {kind : WordKind}
    (h : classifyHyphen command text = .ok kind) : Word.Known command ⟨text, kind⟩ := by
  rintro option name value ⟨⟩
  revert h
  fun_cases classifyHyphen command text with
  | case1 _ _ _ _ hfind =>
    rintro ⟨⟩
    exact mem_options_of_findOption? hfind
  | case2 _ _ _ _ found kind hfound =>
    -- the only option that the word may be short for
    rintro ⟨⟩
    have hmem : .option (some option) name value ∈ found := by
      rw [hfound]
      exact List.mem_singleton_self _
    unfold found at hmem
    split at hmem
    · exact mem_options_of_longMatches hmem
    · exact mem_options_of_shortMatches hmem
  | case3 | case4 | case5 => rintro ⟨⟩

theorem known_of_classify {text : String} {kind : WordKind}
    (h : Word.classify command text = .ok kind) : Word.Known command ⟨text, kind⟩ := by
  revert h
  fun_cases Word.classify command text with
  | case1 | case4 => rintro ⟨⟩ _ _ _ ⟨⟩
  | case2 _ _ _ _ hfind =>
    rintro ⟨⟩ _ _ _ ⟨⟩
    exact mem_options_of_findOption? hfind
  | case3 => exact known_of_classifyHyphen

theorem known_of_words {arguments : List String} {all : List Word}
    (h : words command arguments = .ok all) : ∀ word ∈ all, word.Known command := by
  induction arguments generalizing all with
  | nil =>
    obtain rfl : [] = all := Except.ok.inj h
    simp
  | cons text rest ih =>
    unfold words at h
    split at h
    · obtain rfl := Except.ok.inj h
      intro word hword option name value hkind
      rcases List.mem_cons.mp hword with rfl | hword
      · cases hkind
      · obtain ⟨_, _, rfl⟩ := List.mem_map.mp hword
        cases hkind
    · obtain ⟨kind, hkind, h⟩ := Validation.bind_eq_ok_iff.mp h
      obtain ⟨others, hothers, h⟩ := Validation.bind_eq_ok_iff.mp h
      obtain rfl := Except.ok.inj h
      intro word hword
      rcases List.mem_cons.mp hword with rfl | hword
      · exact known_of_classify hkind
      · exact ih hothers word hword

/-! ## One option -/

theorem known_of_optionsIn {next : Option String} {fuel : Nat} {option : OptionForm}
    {name : String} {value : Option String} {taken : List Taken} {used : Bool}
    (hoption : option ∈ command.options)
    (h : optionsIn command next fuel option name value = .ok (taken, used)) :
    ∀ entry ∈ taken, entry.1 ∈ command.options := by
  fun_induction optionsIn command next fuel option name value generalizing taken used with
  | case1 | case2 | case3 | case5 =>
    cases h
    simpa using hoption
  | case4 | case6 | case7 | case9 => cases h
  | case8 =>
    -- a further switch in the same word, with what stands behind it
    rename_i other hfind _ ih
    obtain ⟨⟨others, used⟩, hothers, h⟩ := Validation.bind_eq_ok_iff.mp h
    cases h
    intro entry hentry
    rcases List.mem_cons.mp hentry with rfl | hentry
    · exact hoption
    · exact ih (mem_options_of_findOption? hfind) hothers entry hentry

theorem Reading.Sound.add {reading result : Reading} {option : OptionForm} {given : Given}
    (h : reading.Sound command) (hoption : option ∈ command.options)
    (htakes : option.kind.Takes given) (hadd : reading.add option given = .ok result) :
    result.Sound command := by
  unfold Reading.add at hadd
  simp only at hadd
  split at hadd
  · cases hadd
  · obtain rfl := Except.ok.inj hadd
    intro entry hentry
    rcases List.mem_append.mp hentry with hentry | hentry
    · exact h entry hentry
    · obtain rfl := List.mem_singleton.mp hentry
      exact ⟨hoption, htakes⟩

theorem Reading.Sound.take {reading result : Reading} {option : OptionForm}
    {value : Option String} (h : reading.Sound command) (hoption : option ∈ command.options)
    (htake : reading.take option value = .ok result) : result.Sound command := by
  revert htake
  fun_cases Reading.take reading option value with
  | case1 | case3 | case7 => rintro ⟨⟩
  | case2 _ hkind => exact h.add hoption (by rw [hkind]; rfl)
  | case4 hhelp hswitch =>
    -- nothing is left of the value, whatever it was to be
    refine h.add hoption ?_
    cases hkind : option.kind with
    | help => exact absurd hkind hhelp
    | switch => exact absurd hkind hswitch
    | text _ => exact .inl rfl
    | number _ => exact .inl rfl
  | case5 _ _ _ hkind => exact h.add hoption (by rw [hkind]; exact .inr ⟨_, rfl⟩)
  | case6 _ _ _ hkind => exact h.add hoption (by rw [hkind]; exact .inr ⟨_, rfl⟩)

theorem Reading.Sound.foldlM_take {reading result : Reading} {taken : List Taken}
    (h : reading.Sound command) (htaken : ∀ entry ∈ taken, entry.1 ∈ command.options)
    (hfold : taken.foldlM (fun reading entry => reading.take entry.1 entry.2) reading =
      .ok result) : result.Sound command := by
  induction taken generalizing reading with
  | nil =>
    obtain rfl : reading = result := Except.ok.inj hfold
    exact h
  | cons entry rest ih =>
    rw [List.foldlM_cons] at hfold
    obtain ⟨next, hnext, hrest⟩ := Validation.bind_eq_ok_iff.mp hfold
    have hentry := htaken entry List.mem_cons_self
    have hothers : ∀ other ∈ rest, other.1 ∈ command.options :=
      fun other hother => htaken other (List.mem_cons_of_mem entry hother)
    exact ih (h.take hentry hnext) hothers hrest

/-! ## All words -/

theorem mem_of_operandWords? {operand : OperandForm} {next rest : List Word}
    {taken : List String} (h : operandWords? operand next = some (taken, rest)) :
    ∀ word ∈ rest, word ∈ next := by
  unfold operandWords? at h
  simp only at h
  split at h
  · cases h
  · rename_i first others hnext
    -- the words behind the first one that is no separator
    have hothers : ∀ word ∈ others, word ∈ next := by
      intro word hword
      apply (List.dropWhile_sublist fun word : Word => word.kind == .separator).subset
      rw [hnext]
      exact List.mem_cons_of_mem first hword
    split at h
    · cases h
    · split at h
      · cases h
        intro word hword
        exact hothers word ((List.dropWhile_sublist _).subset hword)
      · cases h
        simp

theorem operandHere_eq_ok {reading result : Reading} {next rest : List Word}
    (h : operandHere command reading next = .ok (some (result, rest))) :
    result.given = reading.given ∧ ∀ word ∈ rest, word ∈ next := by
  unfold operandHere at h
  split at h
  · split at h
    · cases h
    · rename_i hwords
      simp only at h
      split at h
      · cases h
      · cases h
        exact ⟨rfl, mem_of_operandWords? hwords⟩
  · cases h

theorem sound_readWords {fuel : Nat} {reading result : Reading} {next : List Word}
    (hsound : reading.Sound command) (hwords : ∀ word ∈ next, word.Known command)
    (h : readWords command fuel reading next = .ok result) : result.Sound command := by
  fun_induction readWords command fuel reading next with
  | case1 | case2 =>
    cases h
    exact hsound
  | case3 _ _ word rest _ _ _ ih =>
    exact ih hsound (fun other hother => hwords other (List.mem_cons_of_mem word hother)) h
  | case4 _ _ word rest option name value hkind ih =>
    obtain ⟨⟨taken, used⟩, htaken, h⟩ := Validation.bind_eq_ok_iff.mp h
    obtain ⟨following, hfollowing, h⟩ := Validation.bind_eq_ok_iff.mp h
    have hoption := hwords word List.mem_cons_self option name value hkind
    have hknown := known_of_optionsIn hoption (Validation.mapError_eq_ok_iff.mp htaken)
    refine ih used following (hsound.foldlM_take hknown hfollowing) ?_ h
    intro other hother
    have hrest : other ∈ rest := by
      split at hother
      · exact List.mem_of_mem_drop hother
      · exact hother
    exact hwords other (List.mem_cons_of_mem word hrest)
  | case5 _ _ word rest _ _ ih ihleft =>
    obtain ⟨here, hhere, h⟩ := Validation.bind_eq_ok_iff.mp h
    cases here with
    | some taken =>
      obtain ⟨hgiven, hmem⟩ := operandHere_eq_ok hhere
      refine ih _ _ ?_ (fun other hother => hwords other (hmem other hother)) h
      rwa [Reading.Sound, hgiven]
    | none =>
      -- no word up to the next option is taken
      exact ihleft hsound
        (fun other hother => hwords other ((List.dropWhile_sublist _).subset hother)) h

/-- **What is read is in order.** -/
theorem sound_read {arguments : List String} {reading : Reading}
    (h : read command arguments = .ok reading) :
    reading.Sound command ∧ missingNames command reading = [] := by
  obtain ⟨all, hall, h⟩ := Validation.bind_eq_ok_iff.mp h
  obtain ⟨found, hfound, h⟩ := Validation.bind_eq_ok_iff.mp h
  have hwords := known_of_words (Validation.mapError_eq_ok_iff.mp hall)
  have hsound : found.Sound command := sound_readWords (by simp [Reading.Sound]) hwords hfound
  split at h
  · rename_i hmissing
    obtain rfl := Except.ok.inj h
    exact ⟨hsound, hmissing⟩
  · cases h

/-! ## Values by name -/

section
variable {reading : Reading} {name : String}

theorem Reading.Sound.value_cases (h : reading.Sound command) (name : String) (absent : Value) :
    reading.last? name = none ∧ reading.value name absent = absent ∨
      ∃ option ∈ command.options, name ∈ option.names ∧ ∃ given,
        option.kind.Takes given ∧ reading.value name absent = given.value := by
  unfold Reading.value
  cases hlast : reading.last? name with
  | none => exact .inl ⟨rfl, rfl⟩
  | some given =>
    obtain ⟨⟨option, _⟩, hfind, rfl⟩ := Option.map_eq_some_iff.mp hlast
    obtain ⟨hoption, htakes⟩ := h _ (List.mem_reverse.mp (List.mem_of_find?_eq_some hfind))
    have hname := List.find?_some hfind
    exact .inr ⟨option, hoption, by simpa using hname, _, htakes, rfl⟩

theorem exists_last?_of_required (h : missingNames command reading = []) {option : OptionForm}
    (hoption : option ∈ command.options) (hrequired : option.required = true)
    (hname : name ∈ option.names) : ∃ given, reading.last? name = some given := by
  obtain ⟨_, hnone⟩ := List.append_eq_nil_iff.mp h
  have hgiven := List.filter_eq_nil_iff.mp (List.map_eq_nil_iff.mp hnone) option hoption
  rw [hrequired, Bool.true_and, Bool.not_eq_true', Bool.not_eq_false, List.any_eq_true] at hgiven
  obtain ⟨entry, hentry, hnames⟩ := hgiven
  rw [← Option.isSome_iff_exists, Reading.last?, Option.isSome_map, List.find?_isSome]
  exact ⟨entry, List.mem_reverse.mpr hentry, by simpa [beq_iff_eq.mp hnames] using hname⟩

end

/-! ## The command that writes a connection string -/

theorem readForm_eq_ok {arguments : List String} {reading : Reading}
    (h : readForm command arguments = .ok reading) : read command arguments = .ok reading := by
  unfold readForm at h
  split at h
  · rename_i hread
    rw [hread, Except.ok.inj h]
  · cases h
  · cases h

/-- Only the one form makes this command. -/
theorem commandOf_eq_encode {unknownPort : Int} {name : String} {reading : Reading}
    {fields : EncodeFields} (h : (commandOf unknownPort name).2 reading = .encode fields) :
    (commandOf unknownPort name).1 = encodeForm ∧ encodeFields unknownPort reading = fields := by
  unfold commandOf at h ⊢
  split at h
  · exact ⟨rfl, Command.encode.inj h⟩
  all_goals cases h

theorem exists_reading_of_read_encode {unknownPort : Int} {arguments : List String}
    {fields : EncodeFields} {verbose : Bool}
    (h : Command.read unknownPort arguments = .ok (.encode fields, verbose)) :
    ∃ reading : Reading, reading.Sound encodeForm ∧ missingNames encodeForm reading = [] ∧
      encodeFields unknownPort reading = fields := by
  obtain ⟨outer, _, h⟩ := Validation.bind_eq_ok_iff.mp h
  split at h
  · split at h <;> cases h
  · simp only at h
    obtain ⟨inner, hinner, h⟩ := Validation.bind_eq_ok_iff.mp h
    split at h
    · obtain ⟨hcommand, _⟩ := Prod.mk.inj (Except.ok.inj h)
      obtain ⟨hform, hfields⟩ := commandOf_eq_encode hcommand
      rw [hform] at hinner
      obtain ⟨hsound, hmissing⟩ := sound_read (readForm_eq_ok hinner)
      exact ⟨inner, hsound, hmissing, hfields⟩
    · cases h

/-- The options of the command that have to be there. -/
def requiredNames : List String := ["--protocol", "--host"]

/-- The options of the command that take a text. -/
def textNames : List String := requiredNames ++ ["--login", "--password", "--domain"]

theorem isText_of_mem : ∀ name ∈ textNames, ∀ option ∈ encodeForm.options,
    name ∈ option.names → option.kind.isText = true := by
  decide

theorem isNumber_of_mem : ∀ option ∈ encodeForm.options, "--port" ∈ option.names →
    option.kind.isNumber = true := by
  decide

section
variable {reading : Reading} (hsound : reading.Sound encodeForm)
include hsound

/-- The value of an option that takes a text is one, if the option is given and something is left
of the value. -/
theorem exists_text (name : String)
    (hname : name ∈ textNames)
    (hleft : reading.value name .null ≠ .list []) :
    reading.last? name = none ∧ reading.value name .null = .null ∨
      ∃ s, reading.value name .null = .text s := by
  rcases hsound.value_cases name .null with hnone | ⟨option, hoption, hmem, given, htakes, hvalue⟩
  · exact .inl hnone
  · rw [hvalue] at hleft ⊢
    rcases htakes.of_isText (isText_of_mem name hname option hoption hmem) with rfl | ⟨s, rfl⟩
    · exact absurd rfl hleft
    · exact .inr ⟨s, rfl⟩

theorem exists_optional_text (name : String)
    (hname : name ∈ textNames)
    (hleft : reading.value name .null ≠ .list []) :
    ∃ text, reading.value name .null = Account.textValue text := by
  rcases exists_text hsound name hname hleft with ⟨_, hnone⟩ | ⟨s, hs⟩
  · exact ⟨none, hnone⟩
  · exact ⟨some s, hs⟩

theorem exists_required_text (hmissing : missingNames encodeForm reading = []) (name : String)
    (hname : name ∈ requiredNames) (hleft : reading.value name .null ≠ .list []) :
    ∃ s, reading.value name .null = .text s := by
  have hrequired : ∀ name ∈ requiredNames,
      ∃ option ∈ encodeForm.options, option.required = true ∧ name ∈ option.names := by
    decide
  obtain ⟨option, hoption, hneeded, hmem⟩ := hrequired name hname
  obtain ⟨given, hgiven⟩ := exists_last?_of_required hmissing hoption hneeded hmem
  rcases exists_text hsound name (List.mem_append_left _ hname) hleft with ⟨hnone, _⟩ | hs
  · rw [hgiven] at hnone
    cases hnone
  · exact hs

theorem exists_number {unknownPort : Int}
    (hleft : reading.value "--port" (.int unknownPort) ≠ .list []) :
    ∃ port, reading.value "--port" (.int unknownPort) = .int port := by
  rcases hsound.value_cases "--port" (.int unknownPort) with
    ⟨_, hnone⟩ | ⟨option, hoption, hmem, given, htakes, hvalue⟩
  · exact ⟨unknownPort, hnone⟩
  · rw [hvalue] at hleft ⊢
    rcases htakes.of_isNumber (isNumber_of_mem option hoption hmem) with rfl | ⟨n, rfl⟩
    · exact absurd rfl hleft
    · exact ⟨n, rfl⟩

end

end MailConnection.Console
