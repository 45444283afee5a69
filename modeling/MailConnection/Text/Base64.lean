import MailConnection.Text.Numeral

/-!
# Base 64

Octets written with sixty-four characters, four characters for three octets.
Characters outside the alphabet are passed over, and the reading ends at a padding
that completes a group of four.
-/

namespace MailConnection.Text.Base64

/-- Why a text is no base 64. -/
inductive Base64Error where
  | loneCharacter (count : Nat)
  | padding
deriving DecidableEq, Repr

/-- The words for an error. -/
def Base64Error.message : Base64Error → String
  | .loneCharacter count =>
    "Invalid base64-encoded string: number of data characters (" ++ toString count ++
      ") cannot be 1 more than a multiple of 4"
  | .padding => "Incorrect padding"

/-- The six bits that a character of the alphabet stands for. -/
def sixBits? (c : Char) : Option Nat :=
  if 'A' ≤ c ∧ c ≤ 'Z' then some (c.toNat - 65)
  else if 'a' ≤ c ∧ c ≤ 'z' then some (c.toNat - 71)
  else if '0' ≤ c ∧ c ≤ '9' then some (c.toNat + 4)
  else if c = '+' then some 62
  else if c = '/' then some 63
  else none

/-- The six-bit groups of a text up to its padding, in reverse, and whether the padding
completes them.  `place` is the number of characters in the group of four under way
and `pads` that of the padding characters seen since the last other one. -/
private def groups : (place pads : Nat) → List Nat → List Char → List Nat × Bool
  | place, _, found, [] => (found, place == 0)
  | place, pads, found, c :: rest =>
    if c = '=' then
      if place < 2 then groups place pads found rest
      else if 4 ≤ place + pads + 1 then (found, true)
      else groups place (pads + 1) found rest
    else
      match sixBits? c with
      | none => groups place pads found rest
      | some bits => groups ((place + 1) % 4) 0 (bits :: found) rest

/-- The octets of complete and incomplete groups of four. -/
private def octets : List Nat → List Nat
  | a :: b :: c :: d :: rest =>
    (a * 4 + b / 16) :: (b % 16 * 16 + c / 4) :: (c % 4 * 64 + d) :: octets rest
  | [a, b, c] => [a * 4 + b / 16, b % 16 * 16 + c / 4]
  | [a, b] => [a * 4 + b / 16]
  | _ => []

/-- The octets that a text stands for. -/
def decode (cs : List Char) : Except Base64Error (List Nat) :=
  let (found, complete) := groups 0 0 [] cs
  if complete then .ok (octets found.reverse)
  else if found.length % 4 = 1 then .error (.loneCharacter found.length)
  else .error .padding

end MailConnection.Text.Base64
