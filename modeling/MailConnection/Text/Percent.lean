import MailConnection.Text.Quoted
import MailConnection.Text.Utf8

/-!
# Percent escapes

`escape` writes each character outside a safe set as its octets, every octet as
`%` and two upper-case hexadecimal digits.  `unescape` takes a text as a row of
octets, where `%` before two hexadecimal digits of either case is the octet
they name and every other character is its own octets, and reads that row as a
text.

The main statement is `unescape_escape`: whatever the safe set, as long as `%`
is not in it, what was escaped is read back.
-/

namespace MailConnection.Text.Percent

/-! ## Escaping -/

/-- An octet as an escape. -/
def escapeOctet (b : Nat) : List Char := '%' :: hexDigits upperHexDigit 2 b

/-- A character, escaped unless it is safe. -/
def escapeChar (safe : Char → Bool) (c : Char) : List Char :=
  if safe c then [c] else (Utf8.encodeChar c).flatMap escapeOctet

/-- A text with the characters outside the safe set escaped. -/
def escape (safe : Char → Bool) (cs : List Char) : List Char := cs.flatMap (escapeChar safe)

/-- Letters, digits and the four marks that are never escaped. -/
def isUnreserved (c : Char) : Bool :=
  c.isAlphanum || c == '_' || c == '.' || c == '-' || c == '~'

/-! ## Reading escapes -/

/-- The octet that two hexadecimal digits name. -/
def escapedOctet? (high low : Char) : Option Nat := do
  let h ← hexValue? high
  let l ← hexValue? low
  return h * 16 + l

/-- The octets that a text with escapes stands for. -/
def octets : List Char → List Nat
  | [] => []
  | [c] => Utf8.encodeChar c
  | [c, d] => Utf8.encodeChar c ++ octets [d]
  | c :: high :: low :: rest =>
    match (if c = '%' then escapedOctet? high low else none) with
    | some b => b :: octets rest
    | none => Utf8.encodeChar c ++ octets (high :: low :: rest)

/-- The text that a text with escapes stands for. -/
def unescape (cs : List Char) : List Char := Utf8.decode (octets cs)

/-! ## Reading back what was escaped -/

theorem hexValue?_upperHexDigit {n : Nat} (h : n < 16) :
    hexValue? (upperHexDigit n) = some n := by
  have hall : ∀ m : Fin 16, hexValue? (upperHexDigit m) = some m.val := by decide
  exact hall ⟨n, h⟩

theorem octets_cons_of_ne {c : Char} (h : c ≠ '%') (rest : List Char) :
    octets (c :: rest) = Utf8.encodeChar c ++ octets rest := by
  rcases rest with _ | ⟨a, _ | ⟨b, r⟩⟩ <;> simp [octets, h]

theorem octets_escapeOctet_append {b : Nat} (h : b < 256) (rest : List Char) :
    octets (escapeOctet b ++ rest) = b :: octets rest := by
  have hhigh := hexValue?_upperHexDigit (n := b / 16 % 16) (by omega)
  have hlow := hexValue?_upperHexDigit (n := b % 16) (by omega)
  have hvalue : b / 16 % 16 * 16 + b % 16 = b := by omega
  simp [escapeOctet, hexDigits, octets, escapedOctet?, hhigh, hlow, hvalue]

theorem octets_flatMap_escapeOctet_append {bs : List Nat} (h : ∀ b ∈ bs, b < 256)
    (rest : List Char) : octets (bs.flatMap escapeOctet ++ rest) = bs ++ octets rest := by
  induction bs with
  | nil => rfl
  | cons b r ih =>
    rw [List.flatMap_cons, List.append_assoc, octets_escapeOctet_append (h b (by simp)),
      ih fun x hx => h x (by simp [hx]), List.cons_append]

theorem octets_escape_append {safe : Char → Bool} (hsafe : safe '%' = false) (cs rest : List Char) :
    octets (escape safe cs ++ rest) = Utf8.encode cs ++ octets rest := by
  induction cs with
  | nil => rfl
  | cons c r ih =>
    rw [escape, List.flatMap_cons, List.append_assoc, Utf8.encode, List.flatMap_cons,
      List.append_assoc, ← Utf8.encode, ← ih, ← escape]
    by_cases hc : safe c = true
    · have hne : c ≠ '%' := by
        rintro rfl
        simp [hsafe] at hc
      rw [escapeChar, if_pos hc, List.singleton_append, octets_cons_of_ne hne]
    · rw [escapeChar, if_neg hc,
        octets_flatMap_escapeOctet_append fun b hb => Utf8.lt_of_mem_encodeChar hb]

/-- **What was escaped is read back.** -/
theorem unescape_escape {safe : Char → Bool} (hsafe : safe '%' = false) (cs : List Char) :
    unescape (escape safe cs) = cs := by
  have h := octets_escape_append hsafe cs []
  rw [List.append_nil] at h
  rw [unescape, h, octets, List.append_nil, Utf8.decode_encode]

theorem escape_append (safe : Char → Bool) (left right : List Char) :
    escape safe (left ++ right) = escape safe left ++ escape safe right :=
  List.flatMap_append

/-- Safe text is left as it is. -/
theorem escape_of_safe {safe : Char → Bool} {cs : List Char} (h : ∀ c ∈ cs, safe c = true) :
    escape safe cs = cs := by
  induction cs with
  | nil => rfl
  | cons c r ih =>
    have hc := h c List.mem_cons_self
    have hr := ih fun d hd => h d (List.mem_cons_of_mem c hd)
    simp only [escape, List.flatMap_cons, escapeChar] at hr ⊢
    simp [hc, hr]

theorem escape_percent_of_not_mem {cs : List Char} (h : '%' ∉ cs) :
    escape (· != '%') cs = cs := by
  refine escape_of_safe fun c hc => bne_iff_ne.mpr ?_
  rintro rfl
  exact h hc

/-- Text without `%` stands for itself. -/
theorem unescape_of_not_mem {cs : List Char} (h : '%' ∉ cs) : unescape cs = cs := by
  have hcs : unescape (escape (fun c => c != '%') cs) = cs := unescape_escape rfl cs
  rwa [escape_percent_of_not_mem h] at hcs

end MailConnection.Text.Percent
