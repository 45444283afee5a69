/-!
# Blank characters and trimming

Two classes of blanks occur in account settings.  `isSpace` is the Unicode
white-space property; numerals are trimmed by it.  `isBlank` adds the four
information separators U+001C to U+001F; logins and addresses are trimmed by it.

`trimBy` cuts both ends of a text.  What it removes are members of the class
(`trimBy_eq_self` says when that is nothing), and its result neither starts nor
ends in the class, so that a second cut changes nothing (`trimBy_trimBy`).
-/

namespace MailConnection.Text

/-! ## The classes -/

/-- A character with the Unicode white-space property. -/
def isSpace (c : Char) : Bool :=
  let n := c.toNat
  (0x09 ≤ n && n ≤ 0x0D) || n == 0x20 || n == 0x85 || n == 0xA0 || n == 0x1680 ||
    (0x2000 ≤ n && n ≤ 0x200A) || n == 0x2028 || n == 0x2029 || n == 0x202F ||
    n == 0x205F || n == 0x3000

/-- A character that counts as empty space at the ends of a login or an address. -/
def isBlank (c : Char) : Bool :=
  isSpace c || (0x1C ≤ c.toNat && c.toNat ≤ 0x1F)

/-! ## Trimming -/

/-- The text without the members of a class at its two ends. -/
def trimBy (p : Char → Bool) (cs : List Char) : List Char :=
  ((cs.dropWhile p).reverse.dropWhile p).reverse

/-- The text without the blanks at its two ends. -/
def trim (cs : List Char) : List Char := trimBy isBlank cs

/-- The string without the blanks at its two ends. -/
def trimString (s : String) : String := String.ofList (trim s.toList)

private theorem dropWhile_eq_self_of_head {p : Char → Bool} {cs : List Char}
    (h : ∀ c, cs.head? = some c → p c = false) : cs.dropWhile p = cs := by
  cases cs with
  | nil => rfl
  | cons c r => simp [h c rfl]

private theorem of_head?_dropWhile (p : Char → Bool) (cs : List Char) {c : Char}
    (h : (cs.dropWhile p).head? = some c) : p c = false := by
  have hstop := List.head?_dropWhile_not p cs
  rwa [h] at hstop

theorem trimBy_eq_self {p : Char → Bool} {cs : List Char}
    (hhead : ∀ c, cs.head? = some c → p c = false)
    (hlast : ∀ c, cs.getLast? = some c → p c = false) : trimBy p cs = cs := by
  unfold trimBy
  rw [dropWhile_eq_self_of_head hhead, dropWhile_eq_self_of_head, List.reverse_reverse]
  intro c hc
  exact hlast c (by simpa using hc)

theorem getLast?_trimBy {p : Char → Bool} {cs : List Char} {c : Char}
    (h : (trimBy p cs).getLast? = some c) : p c = false := by
  refine of_head?_dropWhile p (cs.dropWhile p).reverse ?_
  simpa [trimBy] using h

theorem head?_trimBy {p : Char → Bool} {cs : List Char} {c : Char}
    (h : (trimBy p cs).head? = some c) : p c = false := by
  have hsuffix : (cs.dropWhile p).reverse.dropWhile p <:+ (cs.dropWhile p).reverse :=
    List.dropWhile_suffix p
  have hinit : trimBy p cs <+: cs.dropWhile p := by
    simpa [trimBy] using List.reverse_prefix.mpr hsuffix
  obtain ⟨t, ht⟩ := hinit
  refine of_head?_dropWhile p cs ?_
  rw [← ht]
  cases hb : trimBy p cs with
  | nil => simp [hb] at h
  | cons d r => simpa [hb] using h

theorem mem_of_mem_trimBy {p : Char → Bool} {cs : List Char} {c : Char}
    (h : c ∈ trimBy p cs) : c ∈ cs := by
  unfold trimBy at h
  have hreverse : c ∈ (cs.dropWhile p).reverse :=
    (List.dropWhile_suffix p).subset (by simpa using h)
  exact (List.dropWhile_suffix p).subset (List.mem_reverse.mp hreverse)

theorem trimBy_trimBy (p : Char → Bool) (cs : List Char) :
    trimBy p (trimBy p cs) = trimBy p cs :=
  trimBy_eq_self (fun _ h => head?_trimBy h) (fun _ h => getLast?_trimBy h)

theorem trim_trim (cs : List Char) : trim (trim cs) = trim cs := trimBy_trimBy isBlank cs

/-- Members of the class around a text make no difference. -/
theorem trimBy_append_append {p : Char → Bool} {left right : List Char}
    (hleft : ∀ c ∈ left, p c = true) (hright : ∀ c ∈ right, p c = true) (cs : List Char) :
    trimBy p (left ++ cs ++ right) = trimBy p cs := by
  have hgone : right.dropWhile p = [] := by
    rw [← List.append_nil right, List.dropWhile_append_of_pos hright]
    rfl
  unfold trimBy
  rw [List.append_assoc, List.dropWhile_append_of_pos hleft, List.dropWhile_append]
  split
  · rename_i hnil
    rw [List.isEmpty_iff.mp hnil, hgone]
  · have hreverse : ∀ c ∈ right.reverse, p c = true := fun c hc =>
      hright c (List.mem_reverse.mp hc)
    rw [List.reverse_append, List.dropWhile_append_of_pos hreverse]

end MailConnection.Text
