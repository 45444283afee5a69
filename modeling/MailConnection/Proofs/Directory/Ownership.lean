import MailConnection.Proofs.Directory.Resolution

/-!
# Whose password a variable holds

Of the variables that are searched for a password the first is formed from the identifier
of the connection, and is meant for this connection alone.  Two identifiers form the same
variable, however, when they differ only in the case of letters or in hyphens and low lines
(`connectionVariable_eq_iff`), and a configuration may hold them both.

`account_unaffected_iff` says when one connection is safe from the variable of another: when
their identifiers form different variables, or when it does not need a password from the
environment at all.  The variables of logins are never in the way
(`loginVariable_ne_connectionVariable`).
-/

namespace MailConnection

namespace Password

/-! ## Identifiers that form the same variable -/

/-- A character of an identifier, letters in lower case and a hyphen as a low line. -/
def looseChar (c : Char) : Char := if c = '-' then '_' else c.toLower

/-- An identifier without regard to case, and to which of its lines are hyphens. -/
def looseId (id : String) : List Char := id.toList.map looseChar

theorem toNat_lt_of_isAlphanum {c : Char} (h : c.isAlphanum = true) : c.toNat < 128 := by
  have hle : c ≤ 'z' := by
    have hclass : (c.isUpper || c.isLower || c.isDigit) = true := h
    rw [Bool.or_eq_true, Bool.or_eq_true] at hclass
    rcases hclass with (hupper | hlower) | hdigit
    · exact UInt32.le_trans (of_decide_eq_true hupper).2 (by decide)
    · exact of_decide_eq_true (Bool.and_eq_true_iff.mp hlower).2
    · exact UInt32.le_trans (of_decide_eq_true (Bool.and_eq_true_iff.mp hdigit).2) (by decide)
  exact Nat.lt_of_le_of_lt (UInt32.le_iff_toNat_le.mp hle) (by decide)

/-- An ASCII character is one of the first 128. -/
theorem exists_ofNat_eq {c : Char} (h : c.toNat < 128) : ∃ n < 128, Char.ofNat n = c :=
  ⟨c.toNat, h, Char.ofNat_toNat c⟩

/-- No identifier has a character outside of ASCII. -/
theorem toNat_lt_of_idChar {c : Char} (h : (c.isAlphanum || c == '_' || c == '-') = true) :
    c.toNat < 128 := by
  simp only [Bool.or_eq_true, beq_iff_eq] at h
  rcases h with (halnum | rfl) | rfl
  · exact toNat_lt_of_isAlphanum halnum
  · decide
  · decide

/-- What stands for a character in a variable, and the character without regard to case, can
each be told from the other. -/
theorem nameChar_and_looseChar {c : Char}
    (h : (c.isAlphanum || c == '_' || c == '-') = true) :
    (nameChar c).toLower = looseChar c ∧ (looseChar c).toUpper = nameChar c := by
  have hall : ∀ n < 128, ((Char.ofNat n).isAlphanum || Char.ofNat n == '_' ||
      Char.ofNat n == '-') = true →
      (nameChar (Char.ofNat n)).toLower = looseChar (Char.ofNat n) ∧
        (looseChar (Char.ofNat n)).toUpper = nameChar (Char.ofNat n) := by decide
  obtain ⟨n, hn, rfl⟩ := exists_ofNat_eq (toNat_lt_of_idChar h)
  exact hall n hn h

/-- Identifiers form the same part of a variable exactly if they are the same without regard
to case and to which lines are hyphens. -/
theorem variablePart_eq_iff {id other : String} (hid : NamedConnection.isId id.toList = true)
    (hother : NamedConnection.isId other.toList = true) :
    variablePart id = variablePart other ↔ looseId id = looseId other := by
  have hchars {name : String} (hname : NamedConnection.isId name.toList = true) :
      ∀ c ∈ name.toList, (nameChar c).toLower = looseChar c ∧
        (looseChar c).toUpper = nameChar c := by
    simp only [NamedConnection.isId, Bool.and_eq_true, List.all_eq_true] at hname
    exact fun c hc => nameChar_and_looseChar (hname.2 c hc)
  have hlower {name : String} (hname : NamedConnection.isId name.toList = true) :
      (variablePart name).toList.map Char.toLower = looseId name := by
    rw [variablePart, String.toList_ofList, List.map_map, looseId]
    exact List.map_congr_left fun c hc => (hchars hname c hc).1
  have hupper {name : String} (hname : NamedConnection.isId name.toList = true) :
      String.ofList ((looseId name).map Char.toUpper) = variablePart name := by
    rw [variablePart, looseId, List.map_map]
    exact congrArg String.ofList (List.map_congr_left fun c hc => (hchars hname c hc).2)
  constructor
  · intro h
    rw [← hlower hid, ← hlower hother, h]
  · intro h
    rw [← hupper hid, ← hupper hother, h]

/-! ## Variables of connections and of logins -/

private theorem append_middle_inj {left right middle other : String}
    (h : left ++ middle ++ right = left ++ other ++ right) : middle = other := by
  have hlist := congrArg String.toList h
  rw [String.toList_append, String.toList_append, String.toList_append,
    String.toList_append] at hlist
  exact String.toList_injective (List.append_cancel_left (List.append_cancel_right hlist))

theorem connectionVariable_eq_iff {id other : String}
    (hid : NamedConnection.isId id.toList = true)
    (hother : NamedConnection.isId other.toList = true) :
    connectionVariable id = connectionVariable other ↔ looseId id = looseId other := by
  rw [← variablePart_eq_iff hid hother]
  refine ⟨append_middle_inj, fun h => ?_⟩
  unfold connectionVariable
  rw [h]

/-- The two kinds of variables differ in what comes first. -/
theorem loginVariable_ne_connectionVariable (login id : String) :
    loginVariable login ≠ connectionVariable id := by
  intro h
  -- the tenth character is that of `LOGIN` or of `CONNECTION`
  have hlist := congrArg (fun name => name.toList.take 10) h
  unfold loginVariable connectionVariable at hlist
  simp only [String.toList_append, List.append_assoc] at hlist
  exact absurd hlist (by simp)

end Password

/-! ## Whom a variable concerns -/

/-- The connection string names a login and leaves its password to the environment. -/
def NamedConnection.LeavesPasswordOut (connection : NamedConnection) : Prop :=
  ∃ account, ConnectionString.decode connection.connection = .ok account ∧
    account.login ≠ none ∧ account.password = none

namespace Directory

/-- Two environments that can only differ in one variable. -/
def AgreeExcept (name : String) (environment changed : Environment) : Prop :=
  ∀ other, other ≠ name → environment.get? other = changed.get? other

section
variable {directory : Directory} {connection : NamedConnection} {id : String}

/-- A connection is not concerned by a variable that it does not search. -/
theorem account_congr_of_not_searched {name : String}
    (hget : directory.get id = .ok connection)
    (haccepted : connection.Accepted)
    (hsearched : connection.LeavesPasswordOut →
      ∀ login, name ∉ Password.variableNames connection login)
    {environment changed : Environment} (hagree : AgreeExcept name environment changed) :
    directory.account environment id = directory.account changed id := by
  obtain ⟨value, hread⟩ := haccepted
  obtain ⟨described, hdecode⟩ := NamedConnection.decode_of_read hread
  rw [account_eq_fillPassword hget hdecode, account_eq_fillPassword hget hdecode]
  by_cases hcomplete : described.login = none ∨ described.password ≠ none
  · rw [fillPassword_of_complete hcomplete, fillPassword_of_complete hcomplete]
  · obtain ⟨hlogin, hpassword⟩ := not_or.mp hcomplete
    rw [Classical.not_not] at hpassword
    have hleaves : connection.LeavesPasswordOut := ⟨described, hdecode, hlogin, hpassword⟩
    refine fillPassword_congr fun login _ searched hmem => hagree searched ?_
    rintro rfl
    exact hsearched hleaves login hmem

/-- A connection that leaves its password out is concerned by its own variable: without any
variable it has no password, and with this one alone it has. -/
theorem account_ne_of_own_variable (hget : directory.get id = .ok connection)
    (hdefault : connection.passwordVariable = none) (hleaves : connection.LeavesPasswordOut) :
    directory.account [] id ≠
      directory.account [(Password.connectionVariable connection.id, "")] id := by
  obtain ⟨described, hdecode, hsome, hpassword⟩ := hleaves
  obtain ⟨login, hlogin⟩ := Option.ne_none_iff_exists'.mp hsome
  have hauth := (ConnectionString.decoded_of_decode hdecode).authenticate
  rw [account_eq_fillPassword hget hdecode, account_eq_fillPassword hget hdecode]
  have hmissing : fillPassword [] connection described =
      .error (.passwordNotFound connection.id (Password.variableNames connection login)) :=
    fillPassword_of_resolution hauth (.missing hlogin hpassword fun _ _ => rfl)
  obtain ⟨rest, hnames⟩ : ∃ rest, Password.variableNames connection login =
      Password.connectionVariable connection.id :: rest := by
    simp only [Password.variableNames, hdefault]
    exact ⟨_, rfl⟩
  have hset : Environment.get? [(Password.connectionVariable connection.id, "")]
      (Password.connectionVariable connection.id) = some "" := by
    simp [Environment.get?]
  have hfound : fillPassword [(Password.connectionVariable connection.id, "")] connection
      described = .ok { described with password := some "" } :=
    fillPassword_of_resolution hauth (.found hlogin hpassword hnames (List.forall_mem_nil _) hset)
  rw [hmissing, hfound]
  simp

end

/-- **When one connection is safe from the variable of another.** -/
theorem account_unaffected_iff {connections : List NamedConnection}
    (haccepted : ∀ connection ∈ connections, connection.Accepted)
    (hnodup : (connections.map (·.id)).Nodup) {owner other : NamedConnection}
    (howner : owner ∈ connections) (hother : other ∈ connections)
    (hownerDefault : owner.passwordVariable = none)
    (hotherDefault : other.passwordVariable = none) :
    (∀ login, (Password.variableNames owner login).head? =
      some (Password.connectionVariable owner.id)) ∧
    ((∀ environment changed,
        AgreeExcept (Password.connectionVariable owner.id) environment changed →
          (ofList connections).account environment other.id =
            (ofList connections).account changed other.id) ↔
      Password.looseId owner.id ≠ Password.looseId other.id ∨ ¬ other.LeavesPasswordOut) := by
  have hget := get_ofList_of_mem hnodup hother
  obtain ⟨value, hread⟩ := haccepted owner howner
  obtain ⟨value', hread'⟩ := haccepted other hother
  have hid := NamedConnection.isId_of_read hread
  have hid' := NamedConnection.isId_of_read hread'
  refine ⟨fun login => ?_, fun hsafe => ?_, fun hapart environment changed hagree => ?_⟩
  · simp only [Password.variableNames, hownerDefault, List.head?_cons]
  · by_cases hsame : Password.looseId owner.id = Password.looseId other.id
    · -- with the same variable, two environments of its own tell the connection apart
      have hvariable := (Password.connectionVariable_eq_iff hid hid').mpr hsame
      refine .inr fun hleaves => account_ne_of_own_variable hget hotherDefault hleaves ?_
      refine hsafe _ _ fun name hname => ?_
      rw [hvariable] at hname
      simp [Environment.get?, Ne.symm hname]
    · exact .inl hsame
  · refine account_congr_of_not_searched hget (haccepted other hother) (fun hleaves login => ?_)
      hagree
    have hloose := hapart.resolve_right (not_not_intro hleaves)
    simp only [Password.variableNames, hotherDefault, List.mem_cons, not_or]
    refine ⟨fun h => hloose ((Password.connectionVariable_eq_iff hid hid').mp h), ?_⟩
    split
    · exact List.not_mem_nil
    · rw [List.mem_singleton]
      exact (Password.loginVariable_ne_connectionVariable _ _).symm

/-- Three connections, two of which form the same variable. -/
def clashing : List NamedConnection :=
  [⟨"work-imap", "imap://alice@h", none⟩, ⟨"work-smtp", "smtp://alice@h", none⟩,
    ⟨"Work_IMAP", "imap://bob@other", none⟩]

theorem accepted_of_mem_clashing : ∀ connection ∈ clashing, connection.Accepted := by
  simp only [clashing, List.forall_mem_cons]
  exact ⟨⟨.record [(.text "id", .text "work-imap"), (.text "connection", .text "imap://alice@h")],
      rfl⟩,
    ⟨.record [(.text "id", .text "work-smtp"), (.text "connection", .text "smtp://alice@h")],
      rfl⟩,
    ⟨.record [(.text "id", .text "Work_IMAP"), (.text "connection", .text "imap://bob@other")],
      rfl⟩, List.forall_mem_nil _⟩

theorem account_unaffected_iff_clashing :
    ((clashing.map (·.id)).Nodup ∧
      (∀ environment changed,
        AgreeExcept "HOSTAUTH_CONNECTION_WORK_IMAP_PASSWORD" environment changed →
          (ofList clashing).account environment "work-smtp" =
            (ofList clashing).account changed "work-smtp")) ∧
    ¬ ∀ environment changed,
        AgreeExcept "HOSTAUTH_CONNECTION_WORK_IMAP_PASSWORD" environment changed →
          (ofList clashing).account environment "Work_IMAP" =
            (ofList clashing).account changed "Work_IMAP" := by
  have hnodup : (clashing.map (·.id)).Nodup := by decide
  have himap : (⟨"work-imap", "imap://alice@h", none⟩ : NamedConnection) ∈ clashing := by decide
  have hsmtp : (⟨"work-smtp", "smtp://alice@h", none⟩ : NamedConnection) ∈ clashing := by decide
  have hclash : (⟨"Work_IMAP", "imap://bob@other", none⟩ : NamedConnection) ∈ clashing := by decide
  have hsafe := account_unaffected_iff accepted_of_mem_clashing hnodup himap hsmtp rfl rfl
  have hunsafe := account_unaffected_iff accepted_of_mem_clashing hnodup himap hclash rfl rfl
  have hvariable : Password.connectionVariable "work-imap" =
      "HOSTAUTH_CONNECTION_WORK_IMAP_PASSWORD" := by decide
  rw [hvariable] at hsafe hunsafe
  refine ⟨⟨hnodup, hsafe.2.mpr (.inl (by decide))⟩, fun hall => ?_⟩
  rcases hunsafe.2.mp hall with hapart | hcomplete
  · exact hapart (by decide)
  · exact hcomplete ⟨_, rfl, by decide, rfl⟩

/-- A variable that is meant for one connection gives another one its password. -/
theorem account_takes_password_of_other :
    (∀ connection ∈ clashing, connection.Accepted) ∧ (clashing.map (·.id)).Nodup ∧
    (Password.variableNames ⟨"work-imap", "imap://alice@h", none⟩ "alice").head? =
      some "HOSTAUTH_CONNECTION_WORK_IMAP_PASSWORD" ∧
    AgreeExcept "HOSTAUTH_CONNECTION_WORK_IMAP_PASSWORD" []
      [("HOSTAUTH_CONNECTION_WORK_IMAP_PASSWORD", "for alice")] ∧
    (ofList clashing).account [] "Work_IMAP" =
      .error (.passwordNotFound "Work_IMAP"
        ["HOSTAUTH_CONNECTION_WORK_IMAP_PASSWORD", "HOSTAUTH_LOGIN_BOB_PASSWORD"]) ∧
    (ofList clashing).account [("HOSTAUTH_CONNECTION_WORK_IMAP_PASSWORD", "for alice")]
        "Work_IMAP" =
      .ok {
        id := none
        protocol := some "imap"
        address := some "other"
        port := 143
        flags := ⟨SecurityMode.none, true, 0⟩
        login := some "bob"
        password := some "for alice"
        domain := none } := by
  refine ⟨accepted_of_mem_clashing, by decide, rfl, fun name hname => ?_, rfl, rfl⟩
  simp [Environment.get?, Ne.symm hname]

end Directory

end MailConnection
