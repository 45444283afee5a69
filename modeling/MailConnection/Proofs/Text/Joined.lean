import MailConnection.Text.Numeral
import MailConnection.Text.Split
import Mathlib.Data.List.Induction

/-!
# Texts made of parts

A grammar builds a text up from its parts, and a check takes it apart again.  These are the
facts that lead from the one to the other: a row of digits without a zero in front is the
numeral of a number (`numeral_numeralValue`), and parts that were joined at a separator which
none of them holds are the segments of the text (`segments_intercalate`).

`UpToFeed` is for checks that overlook a line feed at the end of a text.
-/

namespace MailConnection.Text

/-! ## Numerals -/

theorem digitChar_of_isDigit {c : Char} (h : c.isDigit = true) :
    c.toNat - '0'.toNat < 10 ∧ (c.toNat - '0'.toNat).digitChar = c := by
  have hrange : 48 ≤ c.toNat ∧ c.toNat ≤ 57 := by
    simp only [Char.isDigit, Bool.and_eq_true, decide_eq_true_eq, UInt32.le_iff_toNat_le] at h
    exact h
  have hall : ∀ n : Fin 10, Nat.digitChar n = Char.ofNat (48 + n) := by decide
  have hdigit : c.toNat - 48 < 10 := by omega
  refine ⟨hdigit, ?_⟩
  have hchar := hall ⟨c.toNat - 48, hdigit⟩
  simp only [Nat.add_sub_cancel' hrange.1, Char.ofNat_toNat] at hchar
  exact hchar

/-- Digits without a zero in front are the numeral of the number that they name. -/
theorem numeral_numeralValue {cs : List Char} (hdigits : ∀ c ∈ cs, c.isDigit = true)
    (hne : cs ≠ []) (hzero : cs = ['0'] ∨ cs.head? ≠ some '0') :
    numeral (numeralValue cs) = cs := by
  induction cs using List.reverseRecOn with
  | nil => exact absurd rfl hne
  | append_singleton init d ih =>
    obtain ⟨hlt, hdigit⟩ := digitChar_of_isDigit (hdigits d (by simp))
    have hvalue : numeralValue (init ++ [d]) = 10 * numeralValue init + (d.toNat - '0'.toNat) := by
      rw [numeralValue, Nat.ofDigitChars_append, Nat.ofDigitChars_cons, Nat.ofDigitChars_nil]
      rfl
    have hlast : numeral (d.toNat - '0'.toNat) = [d] := by
      rw [numeral, Nat.toDigits_of_lt_base hlt, hdigit]
    by_cases hinit : init = []
    · subst hinit
      rw [hvalue, numeralValue, Nat.ofDigitChars_nil, Nat.mul_zero, Nat.zero_add, hlast,
        List.nil_append]
    · -- the digits before the last one start with the same digit, which is no zero
      have hhead : init.head? ≠ some '0' := by
        obtain ⟨first, rest, rfl⟩ := List.exists_cons_of_ne_nil hinit
        rcases hzero with hsingle | hhead
        · simp at hsingle
        · exact hhead
      have hrest : numeral (numeralValue init) = init :=
        ih (fun c hc => hdigits c (by simp [hc])) hinit (.inr hhead)
      have hpos : 0 < numeralValue init := by
        refine Nat.pos_of_ne_zero fun hnone => hhead ?_
        rw [← hrest, hnone]
        rfl
      calc numeral (numeralValue (init ++ [d]))
          = Nat.toDigits 10 (10 * numeralValue init + (d.toNat - '0'.toNat)) := by
            rw [hvalue, numeral]
        _ = numeral (numeralValue init) ++ numeral (d.toNat - '0'.toNat) :=
            (Nat.toDigits_append_toDigits (by decide) hpos hlt).symm
        _ = init ++ [d] := by rw [hrest, hlast]

/-! ## Parts joined at a separator -/

theorem segments_eq_splitOn (separator : Char) (cs : List Char) :
    segments separator cs = cs.splitOn separator := by
  induction cs with
  | nil => rfl
  | cons c rest ih =>
    have hsplit : (c :: rest).splitOn separator =
        if c = separator then [] :: rest.splitOn separator
        else (rest.splitOn separator).modifyHead (c :: ·) := by
      simp [List.splitOn, List.splitOnP_cons_eq_if_modifyHead]
    rw [hsplit, segments, ih]
    split
    · rfl
    · cases hrest : rest.splitOn separator with
      | nil => exact absurd (ih.trans hrest) (segments_ne_nil separator rest)
      | cons first others => rfl

/-- Parts that were joined at a separator are found again by cutting there. -/
theorem segments_intercalate {separator : Char} {parts : List (List Char)} (hne : parts ≠ [])
    (h : ∀ part ∈ parts, separator ∉ part) :
    segments separator ([separator].intercalate parts) = parts := by
  rw [segments_eq_splitOn, List.splitOn_intercalate separator h hne]

theorem intercalate_append {separator : List Char} {left right : List (List Char)}
    (hleft : left ≠ []) (hright : right ≠ []) :
    separator.intercalate (left ++ right) =
      separator.intercalate left ++ (separator ++ separator.intercalate right) := by
  induction left with
  | nil => exact absurd rfl hleft
  | cons first rest ih =>
    by_cases hrest : rest = []
    · subst hrest
      simp [List.intercalate_cons_of_ne_nil hright]
    · rw [List.cons_append, List.intercalate_cons_of_ne_nil (by simp [hrest]),
        List.intercalate_cons_of_ne_nil hrest, ih hrest]
      simp

/-- A character of joined parts is one of a part or the separator between them. -/
theorem mem_intercalate {separator c : Char} {parts : List (List Char)}
    (h : c ∈ [separator].intercalate parts) : c = separator ∨ ∃ part ∈ parts, c ∈ part := by
  induction parts with
  | nil => simp at h
  | cons first rest ih =>
    by_cases hrest : rest = []
    · subst hrest
      exact .inr ⟨first, by simp, by simpa using h⟩
    · simp only [List.intercalate_cons_of_ne_nil hrest, List.append_assoc, List.mem_append,
        List.mem_singleton] at h
      rcases h with hfirst | hseparator | hmem
      · exact .inr ⟨first, by simp, hfirst⟩
      · exact .inl hseparator
      · rcases ih hmem with heq | ⟨part, hpart, hc⟩
        · exact .inl heq
        · exact .inr ⟨part, by simp [hpart], hc⟩

theorem mem_intercalate_of_mem (separator : List Char) {c : Char} {parts : List (List Char)}
    {part : List Char} (hpart : part ∈ parts) (hc : c ∈ part) :
    c ∈ separator.intercalate parts := by
  obtain ⟨left, right, rfl⟩ := List.append_of_mem hpart
  have hright : c ∈ separator.intercalate (part :: right) := by
    by_cases hnil : right = []
    · simpa [hnil] using hc
    · simp [List.intercalate_cons_of_ne_nil hnil, hc]
  by_cases hleft : left = []
  · simpa [hleft] using hright
  · rw [intercalate_append hleft (List.cons_ne_nil part right)]
    simp [hright]

theorem exists_intercalate_concat (separator : List Char) (init : List (List Char))
    (last : List Char) : ∃ front, separator.intercalate (init ++ [last]) = front ++ last := by
  by_cases hnil : init = []
  · subst hnil
    exact ⟨[], List.intercalate_singleton⟩
  · rw [intercalate_append hnil (List.cons_ne_nil last []), List.intercalate_singleton,
      ← List.append_assoc]
    exact ⟨_, rfl⟩

/-! ## Line feeds at the end -/

/-- Legal, or legal but for a line feed at the end. -/
def UpToFeed (legal : List Char → Prop) (cs : List Char) : Prop :=
  legal cs ∨ ∃ init, cs = init ++ ['\n'] ∧ legal init

theorem upToFeed_iff (plain : List Char → Bool) (legal : List Char → Prop)
    (h : ∀ {cs}, plain cs = true ↔ legal cs) {cs : List Char} :
    (plain cs || (cs.getLast? == some '\n' && plain cs.dropLast)) = true ↔ UpToFeed legal cs := by
  simp only [Bool.or_eq_true, Bool.and_eq_true, beq_iff_eq, h, UpToFeed]
  refine or_congr_right ⟨?_, ?_⟩
  · rintro ⟨hlast, hinit⟩
    obtain ⟨init, rfl⟩ := List.getLast?_eq_some_iff.mp hlast
    exact ⟨init, rfl, by rwa [List.dropLast_concat] at hinit⟩
  · rintro ⟨init, rfl, hinit⟩
    rw [List.dropLast_concat]
    exact ⟨List.getLast?_concat, hinit⟩

/-- Without a line feed there is nothing to overlook. -/
theorem legal_of_upToFeed {legal : List Char → Prop} {cs : List Char} (h : UpToFeed legal cs)
    (hfeed : '\n' ∉ cs) : legal cs := by
  rcases h with hlegal | ⟨init, rfl, _⟩
  · exact hlegal
  · simp at hfeed

end MailConnection.Text
