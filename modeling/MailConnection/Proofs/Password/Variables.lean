import Mathlib.Data.List.Nodup
import MailConnection.Proofs.Directory.Ownership
import MailConnection.Proofs.NamedConnection.Usability

/-!
# Names of password variables

The variables that may hold the password of a connection are the one that it names, or else
those that are formed from its identifier and from the login.  A login may hold any character,
and a name only a few: `variablePart` takes the one to the other, character by character.

The main statement, `variableNames_legal`, is about the names that come of it.  They can stand
in an environment, no name is searched twice, and blanks around the login do not matter.  What
is formed from an identifier is never what is formed from a login (`Kind.Forms.not_login`), and
neither is a variable of the settings in any mixture of cases (`Kind.Forms.not_sameAnyCase`),
because what a name starts with tells them apart.
-/

namespace MailConnection.Password

/-! ## Parts of names -/

/-- A character of a part of a name: a capital letter, a digit or `_`. -/
def isPartChar (c : Char) : Bool := c.isUpper || c.isDigit || c == '_'

theorem idChar_of_isPartChar {c : Char} (h : isPartChar c = true) :
    (c.isAlphanum || c == '_') = true := by
  show (c.isUpper || c.isLower || c.isDigit || c == '_') = true
  simp only [isPartChar, Bool.or_eq_true] at h ⊢
  rcases h with (hupper | hdigit) | hline
  · exact .inl (.inl (.inl hupper))
  · exact .inl (.inr hdigit)
  · exact .inr hline

theorem isPartChar_nameChar (c : Char) : isPartChar (nameChar c) = true := by
  have hall : ∀ n < 128, (Char.ofNat n).isAlphanum = true →
      isPartChar (Char.ofNat n).toUpper = true := by decide
  unfold nameChar
  split
  · rename_i halnum
    -- letters beyond ASCII, whose capitals may be more than one character, are no letters here
    obtain ⟨n, hn, rfl⟩ := exists_ofNat_eq (toNat_lt_of_isAlphanum halnum)
    exact hall n hn halnum
  · rfl

/-- A character of a part stands for itself. -/
theorem nameChar_of_isPartChar {c : Char} (h : isPartChar c = true) : nameChar c = c := by
  have hall : ∀ n < 128, isPartChar (Char.ofNat n) = true →
      nameChar (Char.ofNat n) = Char.ofNat n := by decide
  have hascii : c.toNat < 128 := toNat_lt_of_idChar (by rw [idChar_of_isPartChar h, Bool.true_or])
  obtain ⟨n, hn, rfl⟩ := exists_ofNat_eq hascii
  exact hall n hn h

theorem length_variablePart (text : String) : (variablePart text).length = text.length := by
  rw [variablePart, String.length_ofList, List.length_map, String.length_toList]

theorem isPartChar_of_mem_variablePart {text : String} {c : Char}
    (h : c ∈ (variablePart text).toList) : isPartChar c = true := by
  rw [variablePart, String.toList_ofList] at h
  obtain ⟨d, _, rfl⟩ := List.mem_map.mp h
  exact isPartChar_nameChar d

/-- A part of a name stands for itself. -/
theorem variablePart_variablePart (text : String) :
    variablePart (variablePart text) = variablePart text := by
  have hself : (variablePart text).toList.map nameChar = (variablePart text).toList.map id :=
    List.map_congr_left fun c hc => nameChar_of_isPartChar (isPartChar_of_mem_variablePart hc)
  rw [variablePart, hself, List.map_id, String.ofList_toList]

/-! ## Kinds of names -/

/-- What a variable is formed from. -/
inductive Kind where
  | connection
  | login
deriving DecidableEq, Repr

namespace Kind

/-- The variable of a kind that is formed from a text. -/
def variableName : Kind → String → String
  | connection => connectionVariable
  | login => loginVariable

/-- What the variables of a kind start with. -/
def stem : Kind → String
  | connection => "HOSTAUTH_CONNECTION_"
  | login => "HOSTAUTH_LOGIN_"

/-- A name is of a kind if it is formed from some text. -/
def Forms (kind : Kind) (name : String) : Prop := ∃ text, name = kind.variableName text

section
variable {kind : Kind} {name : String}

theorem variableName_eq (kind : Kind) (text : String) :
    kind.variableName text = kind.stem ++ variablePart text ++ "_PASSWORD" := by
  cases kind <;> rfl

theorem Forms.stem_prefix (h : kind.Forms name) : kind.stem.toList <+: name.toList := by
  obtain ⟨text, rfl⟩ := h
  rw [variableName_eq, String.append_assoc, String.toList_append]
  exact List.prefix_append _ _

/-- A formed name is legal, whatever it is formed from. -/
theorem Forms.legal (h : kind.Forms name) : NamedConnection.VariableName name.toList := by
  obtain ⟨text, rfl⟩ := h
  have hpart : (variablePart text).toList.all (fun c => c.isAlphanum || c == '_') = true :=
    List.all_eq_true.mpr fun c hc => idChar_of_isPartChar (isPartChar_of_mem_variablePart hc)
  rw [← NamedConnection.isVariableName_iff, variableName_eq, String.toList_append,
    String.toList_append, NamedConnection.isVariableName, Bool.and_eq_true, List.all_append,
    List.all_append, hpart]
  cases kind <;> exact ⟨rfl, by decide⟩

/-- **No name is of both kinds.** -/
theorem Forms.not_login (h : connection.Forms name) : ¬ login.Forms name := by
  rintro ⟨text, rfl⟩
  obtain ⟨id, heq⟩ := h
  exact loginVariable_ne_connectionVariable text id heq

end

end Kind

/-! ## Variables of the settings -/

/-- The variables that settings are read from. -/
def settingsVariables : List String :=
  ["HOSTAUTH_CONFIG_FILE", "HOSTAUTH_CONNECTIONS", "HOSTAUTH_LOG_LEVEL"]

/-- Whether two names are the same in any mixture of cases. -/
def sameAnyCase (name other : String) : Bool :=
  Environment.namesLower name (String.ofList (other.toList.map Environment.lowerAscii))

/-- **A formed name is no variable of the settings,** in whatever case they are looked up. -/
theorem Kind.Forms.not_sameAnyCase {kind : Kind} {name reserved : String} (h : kind.Forms name)
    (hreserved : reserved ∈ settingsVariables) : sameAnyCase name reserved = false := by
  have hstem : ∀ reserved ∈ settingsVariables, ¬ kind.stem.toList.map Environment.lowerAscii <+:
      reserved.toList.map Environment.lowerAscii := by
    cases kind <;> decide
  refine Bool.eq_false_iff.mpr fun hsame => hstem reserved hreserved ?_
  have hlower : name.toList.map Environment.lowerAscii =
      reserved.toList.map Environment.lowerAscii := by
    simpa [sameAnyCase, Environment.namesLower] using hsame
  rw [← hlower]
  exact h.stem_prefix.map _

/-! ## The names that are searched -/

/-- The names that are searched for a connection without a variable of its own: first the one
of its identifier and then, unless the login is blank, that of the login. -/
inductive Defaults : List String → Prop
  | alone {first : String} (hfirst : Kind.connection.Forms first) : Defaults [first]
  | withLogin {first second : String} (hfirst : Kind.connection.Forms first)
      (hsecond : Kind.login.Forms second) : Defaults [first, second]

theorem Defaults.nodup {names : List String} (h : Defaults names) : names.Nodup := by
  cases h with
  | alone _ => exact List.nodup_singleton _
  | withLogin hfirst hsecond =>
    refine List.nodup_cons.mpr ⟨fun hmem => ?_, List.nodup_singleton _⟩
    rw [← List.mem_singleton.mp hmem] at hsecond
    exact hfirst.not_login hsecond

theorem Defaults.legal {names : List String} (h : Defaults names) :
    ∀ name ∈ names, NamedConnection.VariableName name.toList := by
  cases h with
  | alone hfirst => exact List.forall_mem_singleton.mpr hfirst.legal
  | withLogin hfirst hsecond =>
    exact List.forall_mem_cons.mpr ⟨hfirst.legal, List.forall_mem_singleton.mpr hsecond.legal⟩

theorem Defaults.ne_nil {names : List String} (h : Defaults names) : names ≠ [] := by
  cases h <;> exact List.cons_ne_nil _ _

section
variable {connection : NamedConnection} {login : String}

/-- Either the variable that the connection names is searched, or the default ones are. -/
theorem variableNames_cases (connection : NamedConnection) (login : String) :
    (∃ name, connection.passwordVariable = some name ∧ variableNames connection login = [name]) ∨
      connection.passwordVariable = none ∧ Defaults (variableNames connection login) := by
  unfold variableNames
  cases connection.passwordVariable with
  | some name => exact .inl ⟨name, rfl, rfl⟩
  | none =>
    refine .inr ⟨rfl, ?_⟩
    dsimp only
    split
    · exact .alone ⟨connection.id, rfl⟩
    · exact .withLogin ⟨connection.id, rfl⟩ ⟨Text.trimString login, rfl⟩

theorem legal_of_mem_variableNames (haccepted : connection.Accepted) :
    ∀ name ∈ variableNames connection login, NamedConnection.VariableName name.toList := by
  obtain ⟨value, hread⟩ := haccepted
  rcases variableNames_cases connection login with ⟨name, hname, hnames⟩ | ⟨_, hdefaults⟩
  · rw [hnames, List.forall_mem_singleton]
    exact NamedConnection.variableName_of_read hread hname
  · exact hdefaults.legal

theorem nodup_variableNames : (variableNames connection login).Nodup := by
  rcases variableNames_cases connection login with ⟨name, _, hnames⟩ | ⟨_, hdefaults⟩
  · rw [hnames]
    exact List.nodup_singleton name
  · exact hdefaults.nodup

theorem variableNames_ne_nil : variableNames connection login ≠ [] := by
  rcases variableNames_cases connection login with ⟨name, _, hnames⟩ | ⟨_, hdefaults⟩
  · rw [hnames]
    exact List.cons_ne_nil _ _
  · exact hdefaults.ne_nil

theorem defaults_variableNames (h : connection.passwordVariable = none) :
    Defaults (variableNames connection login) := by
  rcases variableNames_cases connection login with ⟨name, hname, _⟩ | ⟨_, hdefaults⟩
  · rw [h] at hname
    cases hname
  · exact hdefaults

theorem variableNames_of_blanks {left right : String}
    (hleft : ∀ c ∈ left.toList, Text.isBlank c = true)
    (hright : ∀ c ∈ right.toList, Text.isBlank c = true) :
    variableNames connection (left ++ login ++ right) = variableNames connection login := by
  have htrim : Text.trimString (left ++ login ++ right) = Text.trimString login := by
    simp only [Text.trimString, Text.trim, String.toList_append,
      Text.trimBy_append_append hleft hright]
  simp only [variableNames, htrim]

/-- **Names of password variables are legal and told apart.**  For a connection that is accepted
and any login, the names that are searched can stand in an environment, there is at least one,
none comes twice, and blanks around the login make no difference.  Where the connection names no
variable, the first name is formed from an identifier and the second from a login; no name is
formed from both, and none that is formed is a variable of the settings.  A part of a name is as
long as the text it is formed from, has capital letters, digits and `_` only, and stands for
itself. -/
theorem variableNames_legal (haccepted : connection.Accepted) (login : String) :
    (∀ name ∈ variableNames connection login, NamedConnection.VariableName name.toList) ∧
    (variableNames connection login).Nodup ∧ variableNames connection login ≠ [] ∧
    (∀ left right : String, (∀ c ∈ left.toList, Text.isBlank c = true) →
      (∀ c ∈ right.toList, Text.isBlank c = true) →
        variableNames connection (left ++ login ++ right) = variableNames connection login) ∧
    (connection.passwordVariable = none → Defaults (variableNames connection login)) ∧
    (∀ name, Kind.connection.Forms name → ¬ Kind.login.Forms name) ∧
    (∀ (kind : Kind) (name : String), kind.Forms name →
      ∀ reserved ∈ settingsVariables, sameAnyCase name reserved = false) ∧
    ∀ text : String, (variablePart text).length = text.length ∧
      (∀ c ∈ (variablePart text).toList, c.isUpper = true ∨ c.isDigit = true ∨ c = '_') ∧
      variablePart (variablePart text) = variablePart text := by
  refine ⟨legal_of_mem_variableNames haccepted, nodup_variableNames, variableNames_ne_nil,
    fun _ _ => variableNames_of_blanks, defaults_variableNames, fun _ => Kind.Forms.not_login,
    fun _ _ hform _ => hform.not_sameAnyCase, fun text => ⟨length_variablePart text,
      fun c hc => ?_, variablePart_variablePart text⟩⟩
  have hpart := isPartChar_of_mem_variablePart hc
  simpa [isPartChar, or_assoc] using hpart

end

/-- A connection that leaves the names of its variables to their defaults. -/
def unnamed : NamedConnection := ⟨"work-imap", "imap://alice@h", none⟩

/-- A login in small letters and with characters beyond ASCII, the last of which has an ASCII
letter for its capital. -/
theorem variableNames_legal_foreign :
    unnamed.Accepted ∧ unnamed.passwordVariable = none ∧
    variableNames unnamed "straße@ı" =
      ["HOSTAUTH_CONNECTION_WORK_IMAP_PASSWORD", "HOSTAUTH_LOGIN_STRA_E___PASSWORD"] ∧
    variableNames unnamed ("\u00a0" ++ "straße@ı" ++ "\u2003\n") =
      variableNames unnamed "straße@ı" ∧
    (variableNames unnamed "straße@ı").Nodup ∧
    Defaults (variableNames unnamed "straße@ı") ∧
    sameAnyCase "HOSTAUTH_LOGIN_STRA_E___PASSWORD" "HOSTAUTH_LOG_LEVEL" = false := by
  have haccepted : unnamed.Accepted :=
    ⟨.record [(.text "id", .text "work-imap"), (.text "connection", .text "imap://alice@h")], rfl⟩
  have hleft : ∀ c ∈ "\u00a0".toList, Text.isBlank c = true := List.all_eq_true.mp rfl
  have hright : ∀ c ∈ "\u2003\n".toList, Text.isBlank c = true := List.all_eq_true.mp rfl
  obtain ⟨_, hnodup, _, hblanks, hdefaults, _, hsettings, _⟩ :=
    variableNames_legal haccepted "straße@ı"
  exact ⟨haccepted, rfl, rfl, hblanks _ _ hleft hright, hnodup, hdefaults rfl,
    hsettings .login _ ⟨"straße@ı", rfl⟩ _ (by simp [settingsVariables])⟩

end MailConnection.Password
