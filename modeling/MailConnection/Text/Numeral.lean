/-!
# Decimal numerals

The numerals of whole numbers, the greatest length of a numeral that is read, and
what is said about a longer one.
-/

namespace MailConnection.Text

/-- The greatest number of digits of a numeral that is read. -/
def maxNumeralLength : Nat := 4300

/-- The least number whose numeral has more than so many digits. -/
def numeralBound (length : Nat) : Nat := Nat.pow 10 length

/-- The numeral of a natural number. -/
def numeral (n : Nat) : List Char := Nat.toDigits 10 n

/-- The number that a row of decimal digits names. -/
def numeralValue (cs : List Char) : Nat := Nat.ofDigitChars 10 cs 0

theorem numeralValue_numeral (n : Nat) : numeralValue (numeral n) = n :=
  Nat.ofDigitChars_toDigits (by decide) (by decide)

theorem isDigit_of_mem_numeral {n : Nat} {c : Char} (h : c ∈ numeral n) : c.isDigit = true :=
  Nat.isDigit_of_mem_toDigits (by decide) (by decide) h

theorem length_numeral_le {n k : Nat} (hk : 0 < k) (h : n < numeralBound k) :
    (numeral n).length ≤ k :=
  (Nat.length_toDigits_le_iff (by decide) hk).mpr h

theorem numeralValue_lt {cs : List Char} (h : cs.all Char.isDigit = true) :
    numeralValue cs < numeralBound cs.length := by
  unfold numeralValue
  induction cs with
  | nil => decide
  | cons c rest ih =>
    simp only [List.all_cons, Bool.and_eq_true] at h
    have hrest := ih h.2
    have hdigit : c.toNat - '0'.toNat ≤ 9 := by
      have hrange : c.toNat ≤ 57 := by
        simp only [Char.isDigit, Bool.and_eq_true, decide_eq_true_eq, UInt32.le_iff_toNat_le] at h
        exact h.1.2
      exact Nat.sub_le_sub_right hrange 48
    -- the first digit is at most nine, and counts as often as the others have values
    have hfirst := Nat.mul_le_mul_left (numeralBound rest.length) hdigit
    rw [Nat.ofDigitChars_cons, Nat.mul_zero, Nat.zero_add, Nat.ofDigitChars_eq_ofDigitChars_zero,
      List.length_cons]
    simp only [numeralBound, Nat.pow_eq, Nat.pow_succ] at hrest hfirst ⊢
    omega

theorem lt_numeralBound {n k m : Nat} (h : n < numeralBound k) (hk : k ≤ m) :
    (n : Int) < numeralBound m :=
  Int.ofNat_lt.mpr (Nat.lt_of_lt_of_le h (Nat.pow_le_pow_right (by decide) hk))

theorem numeral_ne_nil (n : Nat) : numeral n ≠ [] := Nat.toDigits_ne_nil

/-- What is said about a numeral with too many digits. -/
def tooLongMessage (digits : Nat) : String :=
  "Exceeds the limit (4300 digits) for integer string conversion: value has " ++
    toString digits ++ " digits; use sys.set_int_max_str_digits() to increase the limit"

end MailConnection.Text
