import MailConnection.ConnectionString.Decode

/-!
# Connection strings with their passwords veiled

What a connection string says is its scheme, endpoint, login, password and domain.  With the
password veiled, all that is left of it is whether there is one.  Two strings are `Alike` when
they say the same with their passwords veiled, or are wrong in the same way.

`alike_of_differInPassword` is why passwords can be kept out of sight at all: strings that
differ in the password only are alike, whatever follows it.  All of them are cut at the same
places, and the endpoint, which errors quote from, lies behind the last `@`.
-/

namespace MailConnection

/-! ## Results that agree -/

/-- Results that are one error, or values that are related. -/
inductive Agree {ε α : Type} (related : α → α → Prop) : Except ε α → Except ε α → Prop
  | ok {a b : α} (h : related a b) : Agree related (.ok a) (.ok b)
  | error (e : ε) : Agree related (.error e) (.error e)

namespace Agree

variable {ε α : Type} {related : α → α → Prop} {result other : Except ε α}

theorem refl (hrefl : ∀ a, related a a) (result : Except ε α) : Agree related result result := by
  cases result with
  | error e => exact .error e
  | ok a => exact .ok (hrefl a)

theorem map {β : Type} {related' : β → β → Prop} {f : α → β} (h : Agree related result other)
    (hf : ∀ {a b}, related a b → related' (f a) (f b)) :
    Agree related' (result.map f) (other.map f) := by
  cases h with
  | ok h => exact .ok (hf h)
  | error e => exact .error e

theorem map_eq {β : Type} {f : α → β} (h : Agree related result other)
    (hf : ∀ {a b}, related a b → f a = f b) : result.map f = other.map f := by
  cases h with
  | ok h => exact congrArg Except.ok (hf h)
  | error e => rfl

theorem mapError {δ : Type} (h : Agree related result other) (f : ε → δ) :
    Agree related (result.mapError f) (other.mapError f) := by
  cases h with
  | ok h => exact .ok h
  | error e => exact .error (f e)

end Agree

/-- An account of which is known only whether it has a password. -/
def Account.veiled (account : Account) : Account :=
  { account with password := account.password.map fun _ => "" }

/-- Accounts that differ in their passwords at most. -/
def Account.SameButPassword (account other : Account) : Prop := account.veiled = other.veiled

namespace ConnectionString

/-! ## Strings that are alike -/

/-- The content of which is known only whether it has a password. -/
def Content.veiled (content : Content) : Content :=
  { content with password := content.password.map fun _ => "" }

/-- Contents that differ in their passwords at most. -/
def Content.SameButPassword (content other : Content) : Prop := content.veiled = other.veiled

/-- Two strings say the same but for their passwords, or have the same error. -/
def Alike (s t : String) : Prop := Agree Content.SameButPassword (read s) (read t)

theorem Alike.refl (s : String) : Alike s s := Agree.refl (fun content => Eq.refl content.veiled) _

/-- The password goes from the content to the account and nowhere else. -/
theorem Content.veiled_applyTo (content : Content) (account : Account) :
    content.veiled.applyTo account = (content.applyTo account).veiled := rfl

theorem Content.notes_veiled (content : Content) : content.veiled.notes = content.notes := rfl

section
variable {s t : String}

theorem Alike.notes_eq (h : Alike s t) : notes s = notes t := by
  unfold Alike at h
  unfold notes
  generalize read s = content at h ⊢
  generalize read t = other at h ⊢
  cases h with
  | error error => rfl
  | @ok content other hveiled =>
    calc content.notes
        = content.veiled.notes := content.notes_veiled.symm
      _ = other.veiled.notes := by rw [hveiled]
      _ = other.notes := other.notes_veiled

theorem Alike.agree_decode (h : Alike s t) :
    Agree Account.SameButPassword (decode s) (decode t) :=
  Agree.map h fun {content other} hveiled => by
    rw [Account.SameButPassword, ← content.veiled_applyTo, hveiled, other.veiled_applyTo]

end

/-! ## Strings that differ in a password -/

/-- A connection string with a login and a password before what follows them. -/
def credentialed (scheme user password tail : String) : String :=
  scheme ++ "://" ++ user ++ ":" ++ password ++ "@" ++ tail

theorem toList_credentialed (scheme user password tail : String) :
    (credentialed scheme user password tail).toList =
      scheme.toList ++ ':' :: '/' :: '/' ::
        ((user.toList ++ ':' :: password.toList) ++ '@' :: tail.toList) := by
  simp [credentialed, String.toList_append]

/-- Strings that are one, or differ in what stands between a login and an `@`. -/
inductive DifferInPassword : String → String → Prop
  | nowhere (s : String) : DifferInPassword s s
  | there {scheme user p q : String} (tail : String)
      (hscheme : scheme.toList.all inScheme = true) (huser : user.toList.all inScheme = true)
      (hp : p.toList.all inAuthority = true) (hq : q.toList.all inAuthority = true) :
      DifferInPassword (credentialed scheme user p tail) (credentialed scheme user q tail)

theorem inAuthority_of_inScheme {c : Char} (h : inScheme c = true) : inAuthority c = true := by
  simp only [inScheme, inAuthority, Bool.and_eq_true] at h ⊢
  exact ⟨⟨h.1.1.2, h.1.2⟩, h.2⟩

section
variable {scheme userInfo tail : List Char}

/-- The parts are those of the string without user info, which goes into the authority. -/
theorem split?_userInfo (hscheme : scheme.all inScheme = true)
    (hinfo : userInfo.all inAuthority = true) :
    split? (scheme ++ ':' :: '/' :: '/' :: (userInfo ++ '@' :: tail)) =
      (split? (scheme ++ ':' :: '/' :: '/' :: tail)).map fun parts =>
        { parts with authority := userInfo ++ '@' :: parts.authority } := by
  rw [List.all_eq_true] at hscheme hinfo
  -- neither the scheme nor the user info ends early, so both are passed over whole
  have hcolon : inScheme ':' = false := rfl
  have hat : inAuthority '@' = true := rfl
  simp only [split?, List.takeWhile_append_of_pos hscheme, List.dropWhile_append_of_pos hscheme,
    List.takeWhile_append_of_pos hinfo, List.dropWhile_append_of_pos hinfo, List.takeWhile_cons,
    List.dropWhile_cons, hcolon, hat, Bool.false_eq_true, if_false, if_true, List.append_nil]
  by_cases hnil : scheme = []
  · simp [hnil]
  · simp [hnil, Option.map_map, Function.comp_def]

end

/-- The login ends at the first colon, so the password after it has no part in it. -/
theorem readCredentials_append_cons {user : List Char} (huser : user.all inScheme = true)
    (password : List Char) :
    readCredentials (user ++ ':' :: password) =
      (some (String.ofList (Text.Percent.unescape user)),
        some (String.ofList (Text.Percent.unescape password))) := by
  have hcolon : ':' ∉ user := fun hmem => absurd (List.all_eq_true.mp huser ':' hmem) (by decide)
  rw [readCredentials, if_neg (by simp), Text.before_append_cons hcolon,
    Text.after?_append_cons hcolon]
  rfl

/-- The content of an authority with user info is the same for all passwords but for the
password. -/
theorem agree_content (parts : Parts) {user : List Char} (huser : user.all inScheme = true)
    (p q : List Char) :
    Agree Content.SameButPassword
      { parts with authority := user ++ ':' :: p ++ '@' :: parts.authority }.content
      { parts with authority := user ++ ':' :: q ++ '@' :: parts.authority }.content := by
  simp only [Parts.content, Text.afterLast_append_cons_of_any, Text.beforeLast_append_cons_of_any]
  -- what follows an earlier `@` belongs to the password as well
  simp only [List.append_assoc, List.cons_append, readCredentials_append_cons huser]
  cases Endpoint.read (Text.afterLast '@' parts.authority) with
  | error error => exact .error error
  | ok endpoint => exact .ok rfl

/-- **Connection strings that differ in a password are alike.** -/
theorem alike_of_differInPassword {s t : String} (h : DifferInPassword s t) : Alike s t := by
  cases h with
  | nowhere => exact Alike.refl s
  | @there scheme user p q tail hscheme huser hp hq =>
    have hinfo : ∀ password : String, password.toList.all inAuthority = true →
        (user.toList ++ ':' :: password.toList).all inAuthority = true := by
      intro password hpassword
      have hlogin : user.toList.all inAuthority = true := List.all_eq_true.mpr fun c hc =>
        inAuthority_of_inScheme (List.all_eq_true.mp huser c hc)
      simpa [hlogin, hpassword] using (by decide : inAuthority ':' = true)
    unfold Alike read
    rw [toList_credentialed, toList_credentialed, split?_userInfo hscheme (hinfo p hp),
      split?_userInfo hscheme (hinfo q hq)]
    -- without their user info the two strings are one
    cases split? (scheme.toList ++ ':' :: '/' :: '/' :: tail.toList) with
    | none => exact .error _
    | some parts => exact agree_content parts huser p.toList q.toList

end ConnectionString

end MailConnection
