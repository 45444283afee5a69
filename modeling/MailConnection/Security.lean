/-!
# Security flags

How a connection is secured is stored as one word of bits.  Three bits are the
user's choice and make up the `SecurityMode`: SSL, TLS, and the trust in all
certificates.  A fourth says that the connection authenticates; it follows from
the login.  Higher bits have no name and are kept as they are.

`Flags.word` and `Flags.ofWord` pass between the bits and the word, each undoing
the other (`Flags.ofWord_word`, `Flags.word_ofWord`).
-/

namespace MailConnection

/-! ## The user's choice -/

/-- The bits of the flag word that the user sets. -/
structure SecurityMode where
  ssl : Bool
  tls : Bool
  trustAll : Bool
deriving DecidableEq, Repr, Inhabited

namespace SecurityMode

/-- No security. -/
def none : SecurityMode := ⟨false, false, false⟩

/-- The word with these bits alone. -/
def word (mode : SecurityMode) : Nat :=
  (if mode.ssl then 1 else 0) + (if mode.tls then 2 else 0) + (if mode.trustAll then 8 else 0)

/-- The user's bits of a whole number, a negative one taken in two's complement. -/
def ofInt (n : Int) : SecurityMode :=
  ⟨n % 2 = 1, n / 2 % 2 = 1, n / 8 % 2 = 1⟩

theorem ofInt_word (mode : SecurityMode) : ofInt mode.word = mode := by
  obtain ⟨ssl, tls, trustAll⟩ := mode
  cases ssl <;> cases tls <;> cases trustAll <;> decide

end SecurityMode

/-! ## The flag word -/

/-- The flags of a connection.  `unnamed` is the word of the bits above the named
ones, shifted down by four. -/
structure Flags where
  mode : SecurityMode
  authenticate : Bool
  unnamed : Nat
deriving DecidableEq, Repr, Inhabited

namespace Flags

/-- No bit set. -/
def none : Flags := ⟨SecurityMode.none, false, 0⟩

/-- The flags as one word. -/
def word (flags : Flags) : Nat :=
  flags.mode.word + (if flags.authenticate then 4 else 0) + 16 * flags.unnamed

/-- The named bits of a whole number, a negative one taken in two's complement;
the unnamed bits of a negative one are left out. -/
def ofInt (n : Int) : Flags :=
  ⟨SecurityMode.ofInt n, n / 4 % 2 = 1, (n / 16).toNat⟩

/-- The flags of a word. -/
def ofWord (n : Nat) : Flags := ofInt n

theorem ofWord_word (flags : Flags) : ofWord flags.word = flags := by
  obtain ⟨⟨ssl, tls, trustAll⟩, authenticate, unnamed⟩ := flags
  simp only [ofWord, ofInt, SecurityMode.ofInt, word, SecurityMode.word, mk.injEq,
    SecurityMode.mk.injEq]
  cases ssl <;> cases tls <;> cases trustAll <;> cases authenticate <;>
    simp <;> omega

theorem word_ofWord (n : Nat) : (ofWord n).word = n := by
  simp only [ofWord, ofInt, SecurityMode.ofInt, word, SecurityMode.word, decide_eq_true_eq]
  repeat' split
  all_goals omega

/-- Which bit of the word is which. -/
theorem testBit_word (flags : Flags) (i : Nat) :
    flags.word.testBit i =
      match i with
      | 0 => flags.mode.ssl
      | 1 => flags.mode.tls
      | 2 => flags.authenticate
      | 3 => flags.mode.trustAll
      | n + 4 => flags.unnamed.testBit n := by
  -- the flags are read off the word again, and so they are its bits
  generalize hword : flags.word = word
  obtain rfl : ofWord word = flags := by rw [← hword, ofWord_word]
  match i with
  | 0 | 1 | 2 | 3 =>
    simp only [ofWord, ofInt, SecurityMode.ofInt, Nat.testBit_eq_decide_div_mod_eq,
      decide_eq_decide]
    omega
  | n + 4 =>
    have hhigh : (ofWord word).unnamed = word / 2 ^ 4 := by
      simp only [ofWord, ofInt]
      omega
    calc word.testBit (n + 4)
        = (word / 2 ^ 4).testBit n := by rw [Nat.testBit_div_two_pow]
      _ = (ofWord word).unnamed.testBit n := by rw [hhigh]

/-- Flags without unnamed bits are those of the least sixteen words. -/
theorem word_lt_sixteen_iff (flags : Flags) : flags.word < 16 ↔ flags.unnamed = 0 := by
  have hlow : flags.word / 16 = flags.unnamed := by
    have hword := congrArg unnamed (ofWord_word flags)
    simp only [ofWord, ofInt] at hword
    omega
  omega

/-! ## Names -/

/-- The names of the bits that are set, lowest first. -/
def names (flags : Flags) : List String :=
  (if flags.mode.ssl then ["SSL"] else []) ++ (if flags.mode.tls then ["TLS"] else []) ++
    (if flags.authenticate then ["AUTHENTICATE"] else []) ++
    (if flags.mode.trustAll then ["TRUST_ALL"] else [])

/-- The names of the bits that are set, or `NONE`. -/
def describe (flags : Flags) : String :=
  if flags.names = [] then "NONE" else "|".intercalate flags.names

/-- The flags as they are shown in a record: the names, the unnamed bits as one
number, and the word. -/
def display (flags : Flags) : String :=
  let parts := flags.names ++ (if flags.unnamed = 0 then [] else [toString (16 * flags.unnamed)])
  let named :=
    if flags.word = 0 then ".NONE"
    else if flags.names = [] then ""
    else "." ++ "|".intercalate parts
  "<SecurityFlag" ++ named ++ ": " ++ toString flags.word ++ ">"

end Flags

end MailConnection
