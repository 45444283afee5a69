import MailConnection.Proofs.ConnectionString.Reading
import MailConnection.Proofs.ConnectionString.Writing
import MailConnection.Proofs.Text.Runs

/-!
# Spellings of a connection string

User info and path may hold any character as it is, or as the escapes of its octets.
`asciiSpelling` is the spelling in which both are ASCII: every other character in them is
escaped, and what was escaped before, well or badly, stays as it was.

The main statement is `decode_asciiSpelling`: the two spellings of a text are read alike, as the
same account or with the same error.  Neither an escape nor the characters that it is made of
are marks, so both spellings are cut at the same places (`split?_asciiText`), and between the
marks the escapes are read as the characters they stand for (`content_inAscii`).
-/

namespace MailConnection.ConnectionString

open Text.Percent (escape isAscii unescape_escape_isAscii)

/-! ## The spelling in ASCII -/

/-- The authority with its user info in ASCII.  The endpoint behind the last `@` stays as it
is. -/
def asciiUserInfo (authority : List Char) : List Char :=
  if '@' ∈ authority then
    escape isAscii (Text.beforeLast '@' authority) ++ '@' :: Text.afterLast '@' authority
  else authority

/-- The text with its user info and its path in ASCII.  The authority goes from `://` to the
first slash, question mark or number sign, and the path from there to the first of the latter
two.  A text without `://` has neither of them. -/
def asciiText (cs : List Char) : List Char :=
  match cs.dropWhile inScheme with
  | ':' :: '/' :: '/' :: rest =>
    let hierarchy := rest.dropWhile inAuthority
    cs.takeWhile inScheme ++ ':' :: '/' :: '/' ::
      (asciiUserInfo (rest.takeWhile inAuthority) ++
        (escape isAscii (hierarchy.takeWhile inPath) ++ hierarchy.dropWhile inPath))
  | _ => cs

/-- The string with its user info and its path in ASCII. -/
def asciiSpelling (s : String) : String := String.ofList (asciiText s.toList)

/-- The parts of the spelling in ASCII. -/
def Parts.inAscii (parts : Parts) : Parts :=
  { parts with
    authority := asciiUserInfo parts.authority
    path := escape isAscii parts.path }

/-! ## Marks -/

/-- What holds of letters, digits and `%` holds of escaped text if it holds of the text. -/
theorem all_escape {p : Char → Bool} (hpercent : p '%' = true)
    (halnum : ∀ c, c.isAlphanum = true → p c = true) {safe : Char → Bool} {cs : List Char}
    (h : cs.all p = true) : (escape safe cs).all p = true := by
  rw [List.all_eq_true] at h ⊢
  intro c hc
  rcases Text.Percent.mem_escape hc with ⟨hmem, _⟩ | rfl | hc
  · exact h c hmem
  · exact hpercent
  · exact halnum c hc

theorem inAuthority_of_isAlphanum (c : Char) (h : c.isAlphanum = true) : inAuthority c = true := by
  simp only [inAuthority, Bool.and_eq_true, bne_iff_ne]
  refine ⟨⟨?_, ?_⟩, ?_⟩ <;> rintro rfl <;> exact absurd h (by decide)

theorem inPath_of_isAlphanum (c : Char) (h : c.isAlphanum = true) : inPath c = true := by
  have hauthority := inAuthority_of_isAlphanum c h
  simp only [inAuthority, inPath, Bool.and_eq_true] at hauthority ⊢
  exact ⟨hauthority.1.2, hauthority.2⟩

theorem all_inAuthority_asciiUserInfo {authority : List Char}
    (h : authority.all inAuthority = true) : (asciiUserInfo authority).all inAuthority = true := by
  unfold asciiUserInfo
  split
  · rename_i hat
    rw [← Text.beforeLast_append_afterLast hat, List.all_append, Bool.and_eq_true] at h
    rw [List.all_append, h.2, Bool.and_true]
    exact all_escape rfl inAuthority_of_isAlphanum h.1
  · exact h

/-- A path in ASCII starts with a slash if the path does. -/
theorem head?_escape_path {path : List Char} (h : ∀ c, path.head? = some c → c = '/') :
    ∀ c, (escape isAscii path).head? = some c → c = '/' := by
  cases path with
  | nil => simp [escape]
  | cons first rest =>
    obtain rfl := h first rfl
    rintro c ⟨⟩
    rfl

/-! ## Cutting both spellings -/

/-- **Both spellings are cut at the same places.** -/
theorem split?_asciiText (cs : List Char) :
    split? (asciiText cs) = (split? cs).map Parts.inAscii := by
  unfold asciiText
  split
  · rename_i rest hrest
    have hscheme : (cs.takeWhile inScheme).all inScheme = true := List.all_takeWhile
    have hauthority : (rest.takeWhile inAuthority).all inAuthority = true := List.all_takeWhile
    have hpath : ((rest.dropWhile inAuthority).takeWhile inPath).all inPath = true :=
      List.all_takeWhile
    rw [split?_of_hierarchy hrest,
      split?_hierarchy hscheme (all_inAuthority_asciiUserInfo hauthority)
        (all_escape rfl inPath_of_isAlphanum hpath) (head?_escape_path (head?_path rest))
        fun c hc => head?_dropWhile_neg hc]
    split
    · rfl
    · rw [Option.map_map]
      rfl
  · rename_i hnone
    rw [split?_of_no_hierarchy hnone, Option.map_none]

/-! ## Reading both spellings -/

/-- Nothing but the empty text is spelled as the empty text. -/
theorem escape_eq_nil_iff {cs : List Char} : escape isAscii cs = [] ↔ cs = [] := by
  cases cs with
  | nil => simp [escape]
  | cons c rest =>
    have hchar : Text.Percent.escapeChar isAscii c ≠ [] := by
      unfold Text.Percent.escapeChar
      split
      · simp
      · obtain ⟨b, others, hencode, _⟩ := Text.Utf8.exists_encodeChar_eq_cons c
        simp [hencode, Text.Percent.escapeOctet]
    simp [escape, hchar]

/-- The first colon of a text is that of its spelling in ASCII. -/
theorem cut_escape (cs : List Char) :
    Text.before ':' (escape isAscii cs) = escape isAscii (Text.before ':' cs) ∧
      Text.after? ':' (escape isAscii cs) = (Text.after? ':' cs).map (escape isAscii) := by
  have hmarked (right : Option (List Char)) :
      escape isAscii (marked ':' right) = marked ':' (right.map (escape isAscii)) := by
    cases right <;> rfl
  have hcut : escape isAscii cs = escape isAscii (Text.before ':' cs) ++
      marked ':' ((Text.after? ':' cs).map (escape isAscii)) := by
    rw [← hmarked, ← Text.Percent.escape_append, before_append_marked_after]
  have hcolon : ':' ∉ escape isAscii (Text.before ':' cs) :=
    Text.Percent.not_mem_escape rfl (by decide) fun hmem =>
      absurd hmem (Text.not_mem_before ':' cs)
  rw [hcut, before_append_marked hcolon, after?_append_marked hcolon]
  exact ⟨rfl, rfl⟩

theorem readCredentials_escape (userInfo : List Char) :
    readCredentials (escape isAscii userInfo) = readCredentials userInfo := by
  obtain ⟨hbefore, hafter⟩ := cut_escape userInfo
  simp only [readCredentials, escape_eq_nil_iff, hbefore, hafter, Option.map_map,
    unescape_escape_isAscii, Function.comp_def]

theorem readDomain_escape {path : List Char} (h : ∀ c, path.head? = some c → c = '/') :
    readDomain (escape isAscii path) = readDomain path := by
  cases path with
  | nil => rfl
  | cons first rest =>
    obtain rfl := h first rfl
    have hslash : escape isAscii ('/' :: rest) = '/' :: escape isAscii rest := rfl
    rw [hslash, readDomain, readDomain, unescape_escape_isAscii]

/-- **Both spellings say the same.** -/
theorem content_inAscii {parts : Parts} (h : ∀ c, parts.path.head? = some c → c = '/') :
    parts.inAscii.content = parts.content := by
  have hafter : Text.afterLast '@' (asciiUserInfo parts.authority) =
      Text.afterLast '@' parts.authority := by
    unfold asciiUserInfo
    split
    · exact Text.afterLast_append_cons (Text.not_mem_afterLast '@' _) _
    · rfl
  have hbefore : Text.beforeLast '@' (asciiUserInfo parts.authority) =
      escape isAscii (Text.beforeLast '@' parts.authority) := by
    unfold asciiUserInfo
    split
    · exact Text.beforeLast_append_cons (Text.not_mem_afterLast '@' _) _
    · rename_i hat
      rw [Text.beforeLast_of_not_mem hat]
      rfl
  simp only [Parts.content, Parts.inAscii, hafter, hbefore, readCredentials_escape,
    readDomain_escape h]

/-- **It makes no difference whether characters beyond ASCII are escaped** in user info and
path: both spellings are read as the same account, or refused with the same error. -/
theorem decode_asciiSpelling (s : String) : decode (asciiSpelling s) = decode s := by
  have hread : read (asciiSpelling s) = read s := by
    rw [read, read, asciiSpelling, String.toList_ofList, split?_asciiText]
    cases hsplit : split? s.toList with
    | none => rfl
    | some parts => exact content_inAscii (split?_eq_some_iff.mp hsplit).2.path_head
  rw [decode, decode, Account.apply, Account.apply, hread]

/-- Raw characters among escapes that are whole, broken off and no UTF-8; the host stays as it
is. -/
example : asciiSpelling "imap://zoë%C3:%é%F0%9@bücher/%E2%82é?é" =
    "imap://zo%C3%AB%C3:%%C3%A9%F0%9@bücher/%E2%82%C3%A9?é" := by decide

end MailConnection.ConnectionString
