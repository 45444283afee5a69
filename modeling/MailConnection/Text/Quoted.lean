import MailConnection.Text.Printable

/-!
# Quoted text

Messages show a text between quotes.  The quotes are single unless the text
holds a single quote and no double quote.  Inside, the backslash and the quote
in use are written after a backslash, line feed, carriage return and tab by
their letters, and every other unprintable character by its code in lower-case
hexadecimal, two, four or eight digits wide.
-/

namespace MailConnection.Text

/-! ## Hexadecimal digits -/

/-- The digit characters of hexadecimal numerals, lower case. -/
def lowerHexDigit (n : Nat) : Char :=
  if n < 10 then Char.ofNat (n + 48) else Char.ofNat (n + 87)

/-- The digit characters of hexadecimal numerals, upper case. -/
def upperHexDigit (n : Nat) : Char :=
  if n < 10 then Char.ofNat (n + 48) else Char.ofNat (n + 55)

/-- The last `width` hexadecimal digits of a number, most significant first. -/
def hexDigits (digit : Nat → Char) : (width : Nat) → Nat → List Char
  | 0, _ => []
  | width + 1, n => hexDigits digit width (n / 16) ++ [digit (n % 16)]

/-- The value of a hexadecimal digit of either case. -/
def hexValue? (c : Char) : Option Nat :=
  if '0' ≤ c ∧ c ≤ '9' then some (c.toNat - 48)
  else if 'a' ≤ c ∧ c ≤ 'f' then some (c.toNat - 87)
  else if 'A' ≤ c ∧ c ≤ 'F' then some (c.toNat - 55)
  else none

theorem toNat_of_isSome_hexValue? {c : Char} (h : (hexValue? c).isSome = true) :
    48 ≤ c.toNat ∧ c.toNat ≤ 102 := by
  have hle (d e : Char) : d ≤ e ↔ d.toNat ≤ e.toNat := by
    rw [Char.le_def, UInt32.le_iff_toNat_le]
    rfl
  have hbounds : '0'.toNat = 48 ∧ '9'.toNat = 57 ∧ 'a'.toNat = 97 ∧ 'f'.toNat = 102 ∧
      'A'.toNat = 65 ∧ 'F'.toNat = 70 := by decide
  unfold hexValue? at h
  simp only [hle, hbounds] at h
  split at h
  · omega
  · split at h
    · omega
    · split at h
      · omega
      · simp at h

/-! ## Quoting -/

/-- How a character stands between quotes. -/
def quotedChar (quote c : Char) : List Char :=
  if c = quote ∨ c = '\\' then ['\\', c]
  else if c = '\n' then ['\\', 'n']
  else if c = '\r' then ['\\', 'r']
  else if c = '\t' then ['\\', 't']
  else if isPrintable c then [c]
  else if c.toNat < 0x100 then '\\' :: 'x' :: hexDigits lowerHexDigit 2 c.toNat
  else if c.toNat < 0x10000 then '\\' :: 'u' :: hexDigits lowerHexDigit 4 c.toNat
  else '\\' :: 'U' :: hexDigits lowerHexDigit 8 c.toNat

/-- The quotes that a text is shown between. -/
def quoteMark (cs : List Char) : Char :=
  if cs.contains '\'' && !cs.contains '"' then '"' else '\''

/-- A text between quotes. -/
def quoted (cs : List Char) : List Char :=
  let quote := quoteMark cs
  quote :: cs.flatMap (quotedChar quote) ++ [quote]

/-- A string between quotes. -/
def quotedString (s : String) : String := String.ofList (quoted s.toList)

/-- An optional string between quotes; an absent one is the word `None`. -/
def quotedOption : Option String → String
  | none => "None"
  | some s => quotedString s

end MailConnection.Text
