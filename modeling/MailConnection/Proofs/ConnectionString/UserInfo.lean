import MailConnection.Proofs.Account.LastCall
import MailConnection.Proofs.ConnectionString.Veil
import MailConnection.Proofs.ConnectionString.Writing

/-!
# User info, with and without a connection string around it

User info `user[:password]` is read in two places, each with a reader of its own: in front of
the last `@` of a connection string, with its escapes resolved, and by itself, as it stands.
Where nothing is escaped the two readers agree (`readCredentials_eq_splitUserInfo`), also on
empty user info, on a login or a password that is empty, and on colons after the first.

The main statement, `decode_userInfo`, is about the connection string as a whole: with user info
put in, whatever `@` it holds, it is read as without, with the user info stored afterwards.
-/

namespace MailConnection.ConnectionString

open Text.Percent (unescape_of_not_mem)

/-! ## The two readers -/

/-- **User info without escapes is read alike** in a connection string and by itself. -/
theorem readCredentials_eq_splitUserInfo {userInfo : String} (h : '%' ∉ userInfo.toList) :
    readCredentials userInfo.toList = Account.splitUserInfo (some userInfo) := by
  have hlogin : '%' ∉ Text.before ':' userInfo.toList := fun hmem =>
    h (Text.mem_of_mem_before hmem)
  have hpassword : ∀ password, Text.after? ':' userInfo.toList = some password →
      '%' ∉ password := by
    intro password hafter hmem
    rw [← Text.before_append_after hafter] at h
    exact h (List.mem_append_right _ (List.mem_cons_of_mem _ hmem))
  by_cases hempty : userInfo = ""
  · subst hempty
    rfl
  · have hne : userInfo.toList ≠ [] := by simpa using hempty
    simp only [readCredentials, Account.splitUserInfo, if_neg hne, if_neg hempty,
      unescape_of_not_mem hlogin]
    cases hafter : Text.after? ':' userInfo.toList with
    | none => rfl
    | some password => simp only [Option.map_some, unescape_of_not_mem (hpassword password hafter)]

/-! ## Putting user info into a connection string -/

/-- The content with the credentials replaced. -/
def Content.withCredentials (content : Content) (credentials : Option String × Option String) :
    Content :=
  { content with
    login := credentials.1
    password := credentials.2 }

theorem Content.applyTo_withCredentials (content : Content) (account : Account)
    (userInfo : Option String) :
    (content.withCredentials (Account.splitUserInfo userInfo)).applyTo account =
      (content.applyTo account).setUserInfo userInfo := rfl

/-- The authority of a string holds no character that is not behind its scheme. -/
theorem not_mem_authority {scheme tail : List Char} {parts : Parts} {d : Char}
    (hscheme : scheme.all inScheme = true)
    (hsplit : split? (scheme ++ ':' :: '/' :: '/' :: tail) = some parts) (hd : d ∉ tail) :
    d ∉ parts.authority := by
  obtain ⟨htext, legal⟩ := split?_eq_some_iff.mp hsplit
  have hcolon {cs : List Char} (hall : cs.all inScheme = true) : ':' ∉ cs := fun hmem =>
    Bool.false_ne_true (List.all_eq_true.mp hall ':' hmem)
  -- both texts are the scheme up to their first colon
  have hcut : scheme ++ marked ':' (some ('/' :: '/' :: tail)) =
      parts.scheme ++ marked ':' (some ('/' :: '/' :: (parts.authority ++
        (parts.path ++ (marked '?' parts.query ++ marked '#' parts.fragment))))) := htext
  obtain ⟨_, htail⟩ := append_marked_inj (hcolon hscheme) (hcolon legal.scheme_all) hcut
  simp only [Option.some.injEq, List.cons.injEq, true_and] at htail
  rw [htail] at hd
  exact fun hmem => hd (List.mem_append_left _ hmem)

/-- In front of an authority without user info, user info replaces the credentials. -/
theorem content_userInfo {parts : Parts} (h : '@' ∉ parts.authority) (userInfo : List Char) :
    { parts with authority := userInfo ++ '@' :: parts.authority }.content =
      parts.content.map fun content => content.withCredentials (readCredentials userInfo) := by
  simp only [Parts.content, Text.afterLast_append_cons h, Text.beforeLast_append_cons h,
    Text.afterLast_of_not_mem h]
  cases Endpoint.read parts.authority <;> rfl

/-- A string with user info says what it says without, but for the credentials; and if it is
wrong, it is so in the same way. -/
theorem read_userInfo {scheme userInfo host : String} (hscheme : scheme.toList.all inScheme = true)
    (hinfo : userInfo.toList.all inAuthority = true) (hhost : '@' ∉ host.toList) :
    read (scheme ++ "://" ++ userInfo ++ "@" ++ host) =
      (read (scheme ++ "://" ++ host)).map fun content =>
        content.withCredentials (readCredentials userInfo.toList) := by
  have hplain : (scheme ++ "://" ++ host).toList =
      scheme.toList ++ ':' :: '/' :: '/' :: host.toList := by simp [String.toList_append]
  have hfull : (scheme ++ "://" ++ userInfo ++ "@" ++ host).toList =
      scheme.toList ++ ':' :: '/' :: '/' :: (userInfo.toList ++ '@' :: host.toList) := by
    simp [String.toList_append]
  rw [read, read, hplain, hfull, split?_userInfo hscheme hinfo]
  cases hsplit : split? (scheme.toList ++ ':' :: '/' :: '/' :: host.toList) with
  | none => rfl
  | some parts => exact content_userInfo (not_mem_authority hscheme hsplit hhost) userInfo.toList

/-- **User info in a connection string is user info by itself.**  Put in front of any host, and
of whatever follows that, it is found again as a whole, and its credentials are those that it
has on its own; the rest of the account is that of the string without it. -/
theorem decode_userInfo {scheme userInfo host : String} {plain : Account}
    (hscheme : scheme.toList.all inScheme = true)
    (hinfo : ∀ mark ∈ ['/', '?', '#', '%'], mark ∉ userInfo.toList) (hhost : '@' ∉ host.toList)
    (haccepted : decode (scheme ++ "://" ++ host) = .ok plain) :
    ∃ account, decode (scheme ++ "://" ++ userInfo ++ "@" ++ host) = .ok account ∧
      account.authentication = (Account.empty.setUserInfo (some userInfo)).authentication ∧
      account = plain.setUserInfo (some userInfo) := by
  have hinside : userInfo.toList.all inAuthority = true :=
    all_inAuthority fun mark hmark => hinfo mark (List.mem_append_left ['%'] hmark)
  have hcredentials := readCredentials_eq_splitUserInfo (hinfo '%' (by decide))
  have hread := read_userInfo hscheme hinside hhost
  rw [decode, Account.apply] at haccepted ⊢
  cases hcontent : read (scheme ++ "://" ++ host) with
  | error error => simp [hcontent, Except.map] at haccepted
  | ok content =>
    obtain rfl : content.applyTo Account.empty = plain := by
      simpa [hcontent, Except.map] using haccepted
    rw [hread, hcontent, hcredentials]
    exact ⟨_, rfl, rfl, content.applyTo_withCredentials Account.empty (some userInfo)⟩

/-- A host in brackets with a port and all that may follow it. -/
def literalHost : String := "[fe80::1]:7/in?a#b"

theorem decode_userInfo_crowded :
    ("imap+ssl+".toList.all inScheme = true ∧
      (∀ mark ∈ ['/', '?', '#', '%'], mark ∉ ":a@b::[c]@:".toList) ∧ '@' ∉ literalHost.toList ∧
      decode ("imap+ssl+" ++ "://" ++ literalHost) = .ok
        { Account.empty with
          protocol := some "imap"
          address := some "fe80::1"
          port := 7
          flags := ⟨⟨true, false, false⟩, false, 0⟩
          domain := some "in" }) ∧
    ∃ account, decode ("imap+ssl+" ++ "://" ++ ":a@b::[c]@:" ++ "@" ++ literalHost) = .ok account ∧
      account.authentication =
        (Account.empty.setUserInfo (some ":a@b::[c]@:")).authentication ∧
      account.authentication = ⟨some "", some "a@b::[c]@:", true⟩ := by
  have hscheme : "imap+ssl+".toList.all inScheme = true := by decide
  have hinfo : ∀ mark ∈ ['/', '?', '#', '%'], mark ∉ ":a@b::[c]@:".toList := by simp
  have hhost : '@' ∉ literalHost.toList := by decide
  have haccepted : decode ("imap+ssl+" ++ "://" ++ literalHost) = .ok
      { Account.empty with
        protocol := some "imap"
        address := some "fe80::1"
        port := 7
        flags := ⟨⟨true, false, false⟩, false, 0⟩
        domain := some "in" } := rfl
  obtain ⟨account, hdecode, hauthentication, _⟩ :=
    decode_userInfo hscheme hinfo hhost haccepted
  exact ⟨⟨hscheme, hinfo, hhost, haccepted⟩, account, hdecode, hauthentication,
    hauthentication.trans rfl⟩

end MailConnection.ConnectionString
