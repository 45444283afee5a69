/-!
# Octets of a text

`encode` gives the UTF-8 octets of a text and `decode` reads octets back.
Octets that are no UTF-8 do not stop the reading: each longest beginning of a
character that is not continued, and each octet that begins none, becomes one
replacement character.

`decode` is a machine with one memory cell, the character that is under way
(`Partial`).  The main statement is `decode_encode_append`: the octets of a
text are read back as that text, whatever octets follow it.
-/

namespace MailConnection.Text.Utf8

/-! ## Writing -/

/-- The octets of a character. -/
def encodeChar (c : Char) : List Nat :=
  let n := c.toNat
  if n < 0x80 then [n]
  else if n < 0x800 then [0xC0 + n / 0x40, 0x80 + n % 0x40]
  else if n < 0x10000 then [0xE0 + n / 0x1000, 0x80 + n / 0x40 % 0x40, 0x80 + n % 0x40]
  else [0xF0 + n / 0x40000, 0x80 + n / 0x1000 % 0x40, 0x80 + n / 0x40 % 0x40, 0x80 + n % 0x40]

/-- The octets of a text. -/
def encode (cs : List Char) : List Nat := cs.flatMap encodeChar

/-! ## Reading -/

/-- A character under way: the bits read so far, how many octets are missing,
and the range in which the next one has to lie. -/
structure Partial where
  bits : Nat
  missing : Nat
  low : Nat
  high : Nat
deriving DecidableEq, Repr

/-- What an octet begins. -/
inductive Lead where
  | whole (c : Char)
  | multi (first : Partial)
  | invalid
deriving DecidableEq, Repr

/-- What an octet begins when no character is under way.  The range of the
second octet shuts out overlong forms, surrogates and code points beyond the
last one. -/
def Lead.ofOctet (b : Nat) : Lead :=
  if b < 0x80 then .whole (Char.ofNat b)
  else if b < 0xC2 then .invalid
  else if b < 0xE0 then .multi ⟨b - 0xC0, 1, 0x80, 0xBF⟩
  else if b < 0xF0 then
    .multi ⟨b - 0xE0, 2, if b = 0xE0 then 0xA0 else 0x80, if b = 0xED then 0x9F else 0xBF⟩
  else if b < 0xF5 then
    .multi ⟨b - 0xF0, 3, if b = 0xF0 then 0x90 else 0x80, if b = 0xF4 then 0x8F else 0xBF⟩
  else .invalid

/-- The character that stands for octets that are no UTF-8. -/
def replacement : Char := '\uFFFD'

/-- Read octets, `under` being the character under way. -/
def decodeFrom : (under : Option Partial) → List Nat → List Char
  | none, [] => []
  | some _, [] => [replacement]
  | none, b :: rest =>
    match Lead.ofOctet b with
    | .whole c => c :: decodeFrom none rest
    | .multi p => decodeFrom (some p) rest
    | .invalid => replacement :: decodeFrom none rest
  | some p, b :: rest =>
    if p.low ≤ b ∧ b ≤ p.high then
      if p.missing = 1 then
        Char.ofNat (p.bits * 0x40 + (b - 0x80)) :: decodeFrom none rest
      else
        decodeFrom (some ⟨p.bits * 0x40 + (b - 0x80), p.missing - 1, 0x80, 0xBF⟩) rest
    else
      replacement ::
        match Lead.ofOctet b with
        | .whole c => c :: decodeFrom none rest
        | .multi q => decodeFrom (some q) rest
        | .invalid => replacement :: decodeFrom none rest

/-- The text that octets are read as. -/
def decode (octets : List Nat) : List Char := decodeFrom none octets

/-! ## Octets that are no UTF-8 -/

/-- Why octets cannot be read strictly. -/
inductive Defect where
  | start
  | continuation
  | unfinished
deriving DecidableEq, Repr

/-- The words for a defect. -/
def Defect.message : Defect → String
  | .start => "invalid start byte"
  | .continuation => "invalid continuation byte"
  | .unfinished => "unexpected end of data"

/-- The first octets that are no UTF-8: where they start, how many they are, and
why.  `position` is the place of the next octet, `begun` the number of octets of
the character under way. -/
def firstDefect : (under : Option Partial) → (begun position : Nat) → List Nat →
    Option (Nat × Nat × Defect)
  | none, _, _, [] => none
  | some _, begun, position, [] => some (position - begun, begun, .unfinished)
  | none, _, position, b :: rest =>
    match Lead.ofOctet b with
    | .whole _ => firstDefect none 0 (position + 1) rest
    | .multi p => firstDefect (some p) 1 (position + 1) rest
    | .invalid => some (position, 1, .start)
  | some p, begun, position, b :: rest =>
    if p.low ≤ b ∧ b ≤ p.high then
      if p.missing = 1 then firstDefect none 0 (position + 1) rest
      else
        firstDefect (some ⟨p.bits * 0x40 + (b - 0x80), p.missing - 1, 0x80, 0xBF⟩)
          (begun + 1) (position + 1) rest
    else some (position - begun, begun, .continuation)

/-! ## Reading back what was written -/

theorem isValidChar_toNat (c : Char) : c.toNat < 0xD800 ∨ 0xDFFF < c.toNat ∧ c.toNat < 0x110000 :=
  c.valid

theorem decodeFrom_encodeChar_append (c : Char) (rest : List Nat) :
    decodeFrom none (encodeChar c ++ rest) = c :: decodeFrom none rest := by
  have hvalid := isValidChar_toNat c
  have hback : ∀ n, n = c.toNat → Char.ofNat n = c := fun n hn => by rw [hn, Char.ofNat_toNat]
  unfold encodeChar
  dsimp only
  split
  · simp [decodeFrom, Lead.ofOctet, *]
  · split
    · have h1 : ¬ (0xC0 + c.toNat / 0x40 < 0x80) := by omega
      have h2 : ¬ (0xC0 + c.toNat / 0x40 < 0xC2) := by omega
      have h3 : 0xC0 + c.toNat / 0x40 < 0xE0 := by omega
      have h4 : 0x80 ≤ 0x80 + c.toNat % 0x40 ∧ 0x80 + c.toNat % 0x40 ≤ 0xBF := by omega
      simp only [List.cons_append, List.nil_append, decodeFrom, Lead.ofOctet, h1, h2, h3, h4,
        if_false, if_true, and_self]
      rw [hback _ (by omega)]
    · split
      · have h1 : ¬ (0xE0 + c.toNat / 0x1000 < 0xE0) := by omega
        have h2 : ¬ (0xE0 + c.toNat / 0x1000 < 0xC2) := by omega
        have h3 : ¬ (0xE0 + c.toNat / 0x1000 < 0x80) := by omega
        have h4 : 0xE0 + c.toNat / 0x1000 < 0xF0 := by omega
        have h5 : (if 0xE0 + c.toNat / 0x1000 = 0xE0 then 0xA0 else 0x80) ≤
              0x80 + c.toNat / 0x40 % 0x40 ∧
            0x80 + c.toNat / 0x40 % 0x40 ≤
              (if 0xE0 + c.toNat / 0x1000 = 0xED then 0x9F else 0xBF) := by
          constructor <;> split <;> omega
        have h6 : 0x80 ≤ 0x80 + c.toNat % 0x40 ∧ 0x80 + c.toNat % 0x40 ≤ 0xBF := by omega
        simp only [List.cons_append, List.nil_append, decodeFrom, Lead.ofOctet, h1, h2, h3, h4,
          h5, h6, if_false, if_true, and_self, Nat.reduceEqDiff, Nat.reduceSub]
        rw [hback _ (by omega)]
      · have h1 : ¬ (0xF0 + c.toNat / 0x40000 < 0xF0) := by omega
        have h2 : ¬ (0xF0 + c.toNat / 0x40000 < 0xE0) := by omega
        have h3 : ¬ (0xF0 + c.toNat / 0x40000 < 0xC2) := by omega
        have h4 : ¬ (0xF0 + c.toNat / 0x40000 < 0x80) := by omega
        have h5 : 0xF0 + c.toNat / 0x40000 < 0xF5 := by omega
        have h6 : (if 0xF0 + c.toNat / 0x40000 = 0xF0 then 0x90 else 0x80) ≤
              0x80 + c.toNat / 0x1000 % 0x40 ∧
            0x80 + c.toNat / 0x1000 % 0x40 ≤
              (if 0xF0 + c.toNat / 0x40000 = 0xF4 then 0x8F else 0xBF) := by
          constructor <;> split <;> omega
        have h7 : 0x80 ≤ 0x80 + c.toNat / 0x40 % 0x40 ∧
            0x80 + c.toNat / 0x40 % 0x40 ≤ 0xBF := by omega
        have h8 : 0x80 ≤ 0x80 + c.toNat % 0x40 ∧ 0x80 + c.toNat % 0x40 ≤ 0xBF := by omega
        simp only [List.cons_append, List.nil_append, decodeFrom, Lead.ofOctet, h1, h2, h3, h4,
          h5, h6, h7, h8, if_false, if_true, and_self, Nat.reduceEqDiff, Nat.reduceSub]
        rw [hback _ (by omega)]

/-- **A text is read back from its octets, whatever follows them.** -/
theorem decode_encode_append (cs : List Char) (rest : List Nat) :
    decode (encode cs ++ rest) = cs ++ decode rest := by
  unfold decode encode
  induction cs with
  | nil => rfl
  | cons c r ih =>
    rw [List.flatMap_cons, List.append_assoc, decodeFrom_encodeChar_append, ih, List.cons_append]

theorem decode_encode (cs : List Char) : decode (encode cs) = cs := by
  have h := decode_encode_append cs []
  simpa [decode, decodeFrom] using h

theorem lt_of_mem_encodeChar {c : Char} {b : Nat} (h : b ∈ encodeChar c) : b < 256 := by
  have hvalid := isValidChar_toNat c
  unfold encodeChar at h
  dsimp only at h
  repeat' split at h
  all_goals
    simp only [List.mem_cons, List.not_mem_nil, or_false] at h
    omega

end MailConnection.Text.Utf8
