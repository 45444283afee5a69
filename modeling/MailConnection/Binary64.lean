/-!
# Binary floating-point numbers

Numbers with a fraction that occur in documents are binary64 numbers: zero or
`mantissa · 2 ^ exponent` with a mantissa below `2 ^ 53`, an infinity, or no
number at all.  `ofRatio` rounds a quotient to the nearest of them, a half to
the even neighbour, and so do sums and products; all arithmetic is in whole
numbers.

`shortestDecimal?` gives the fewest decimal digits that are read back as the same
number, and of the texts of that length the one nearest to it, of two the even
one.  `Binary64.text` writes them positionally between `10 ^ -4` and `10 ^ 16` and
with an exponent elsewhere.
-/

namespace MailConnection

/-- A binary64 number.  A finite one is `± mantissa * 2 ^ exponent`. -/
inductive Binary64 where
  | finite (negative : Bool) (mantissa : Nat) (exponent : Int)
  | infinite (negative : Bool)
  | nan
deriving DecidableEq, Repr

namespace Binary64

/-! ## Rounding -/

/-- The whole number nearest to a quotient; a half goes to the even neighbour. -/
def roundQuotient (num den : Nat) : Nat :=
  let q := num / den
  let r := num % den
  if 2 * r < den then q else if 2 * r > den then q + 1 else q + q % 2

/-- The quotient `num / (den * 2 ^ e)`, as a numerator and a denominator. -/
private def scaled (num den : Nat) (e : Int) : Nat × Nat :=
  if 0 ≤ e then (num, den * Nat.pow 2 e.toNat) else (num * Nat.pow 2 (-e).toNat, den)

/-- The binary64 number nearest to a quotient of whole numbers. -/
def ofRatio (negative : Bool) (num den : Nat) : Binary64 :=
  if num = 0 then .finite negative 0 0
  else
    let estimate : Int := (num.log2 : Int) - (den.log2 : Int) - 53
    let (n, d) := scaled num den estimate
    let exponent := max (if n / d < Nat.pow 2 53 then estimate else estimate + 1) (-1074)
    let (n, d) := scaled num den exponent
    let mantissa := roundQuotient n d
    let (mantissa, exponent) :=
      if mantissa = Nat.pow 2 53 then (Nat.pow 2 52, exponent + 1) else (mantissa, exponent)
    if mantissa = 0 then .finite negative 0 0
    else if 971 < exponent then .infinite negative
    else .finite negative mantissa exponent

/-- The binary64 number nearest to `digits * 10 ^ exponent`. -/
def ofDecimal (negative : Bool) (digits : Nat) (exponent : Int) : Binary64 :=
  if digits = 0 then .finite negative 0 0
  else if 400 < exponent then .infinite negative
  else if (digits.log2 : Int) + 3 * exponent < -1100 then .finite negative 0 0
  else if 0 ≤ exponent then ofRatio negative (digits * Nat.pow 10 exponent.toNat) 1
  else ofRatio negative digits (Nat.pow 10 (-exponent).toNat)

/-! ## Arithmetic -/

/-- The binary64 number nearest to `n * 2 ^ exponent`. -/
private def ofScaled (n : Int) (exponent : Int) : Binary64 :=
  let (num, den) := scaled n.natAbs 1 (-exponent)
  ofRatio (n < 0) num den

/-- The mantissa with the sign of the number. -/
private def signed (negative : Bool) (mantissa : Nat) : Int :=
  if negative then -(mantissa : Int) else mantissa

/-- The sum, rounded. -/
def add : Binary64 → Binary64 → Binary64
  | .nan, _ => .nan
  | _, .nan => .nan
  | .infinite a, .infinite b => if a = b then .infinite a else .nan
  | .infinite a, _ => .infinite a
  | _, .infinite b => .infinite b
  | .finite a m e, .finite b n f =>
    let least := min e f
    let shifted := fun (k : Int) (g : Int) => k * (Nat.pow 2 (g - least).toNat : Nat)
    ofScaled (shifted (signed a m) e + shifted (signed b n) f) least

/-- The product with a finite number other than zero, rounded. -/
def scale (x : Binary64) (negative : Bool) (mantissa : Nat) (exponent : Int) : Binary64 :=
  match x with
  | .nan => .nan
  | .infinite a => .infinite (a != negative)
  | .finite a m e => ofScaled (signed (a != negative) (m * mantissa)) (e + exponent)

/-- The number with the other sign. -/
def neg : Binary64 → Binary64
  | .nan => .nan
  | .infinite a => .infinite !a
  | .finite a m e => .finite (!a) m e

/-! ## Whole numbers -/

/-- The whole number that a finite binary64 number is, if it is one. -/
def toInt? : Binary64 → Option Int
  | .finite negative mantissa exponent =>
    let magnitude? :=
      if 0 ≤ exponent then some (mantissa * Nat.pow 2 exponent.toNat)
      else
        let unit := Nat.pow 2 (-exponent).toNat
        if mantissa % unit = 0 then some (mantissa / unit) else none
    magnitude?.map fun m => if negative then -(m : Int) else (m : Int)
  | _ => none

/-! ## Shortest decimal digits -/

/-- The magnitude of a finite number as a quotient. -/
private def ratio (mantissa : Nat) (exponent : Int) : Nat × Nat :=
  if 0 ≤ exponent then (mantissa * Nat.pow 2 exponent.toNat, 1)
  else (mantissa, Nat.pow 2 (-exponent).toNat)

/-- The two decimals `n * 10 ^ place` next to a quotient, the nearer one first; of two that
are as near as each other, the even one. -/
private def neighbours (num den : Nat) (place : Int) : List Nat :=
  let (num, den) :=
    if 0 ≤ place then (num, den * Nat.pow 10 place.toNat)
    else (num * Nat.pow 10 (-place).toNat, den)
  let low := num / den
  if roundQuotient num den = low then [low, low + 1] else [low + 1, low]

/-- The place of the first decimal digit of a quotient: the greatest `k` with
`10 ^ k ≤ num / den`, searched downwards. -/
private def leadingPlace (num den : Nat) : (fuel : Nat) → (candidate : Int) → Int
  | 0, k => k
  | fuel + 1, k =>
    let reached :=
      if 0 ≤ k then den * Nat.pow 10 k.toNat ≤ num else den ≤ num * Nat.pow 10 (-k).toNat
    if reached then k else leadingPlace num den fuel (k - 1)

/-- The fewest digits, and the place of the last one, that are read back as the
number with this mantissa and exponent. -/
def shortestDecimal? (mantissa : Nat) (exponent : Int) : Option (Nat × Int) :=
  let (num, den) := ratio mantissa exponent
  let lead := leadingPlace num den 700 310
  (List.range 17).findSome? fun (count : Nat) =>
    let place := lead - (count : Int)
    ((neighbours num den place).find? fun n =>
        ofDecimal false n place == .finite false mantissa exponent).map fun n => (n, place)

/-! ## Text -/

/-- Drop zeros at the end of a row of digits, counting them into the place. -/
private def dropTrailingZeros : (fuel : Nat) → Nat → Int → Nat × Int
  | 0, n, place => (n, place)
  | fuel + 1, n, place =>
    if n % 10 = 0 ∧ n ≠ 0 then dropTrailingZeros fuel (n / 10) (place + 1) else (n, place)

/-- The digits of a positive number with the decimal point or exponent in place. -/
private def placeDigits (digits : List Char) (place : Int) : List Char :=
  let point : Int := digits.length + place
  if point ≤ -4 ∨ 16 < point then
    let exponent := point - 1
    let fraction := digits.drop 1
    let sign := if exponent < 0 then '-' else '+'
    let width := Nat.toDigits 10 exponent.natAbs
    digits.take 1 ++ (if fraction = [] then [] else '.' :: fraction) ++
      ['e', sign] ++ (if width.length < 2 then '0' :: width else width)
  else if point ≤ 0 then
    "0.".toList ++ List.replicate (-point).toNat '0' ++ digits
  else if point < digits.length then
    digits.take point.toNat ++ '.' :: digits.drop point.toNat
  else
    digits ++ List.replicate (point.toNat - digits.length) '0' ++ ".0".toList

/-- A binary64 number as text. -/
def text : Binary64 → String
  | .nan => "nan"
  | .infinite negative => if negative then "-inf" else "inf"
  | .finite negative mantissa exponent =>
    let body :=
      if mantissa = 0 then "0.0".toList
      else match shortestDecimal? mantissa exponent with
        | none => "0.0".toList
        | some (n, place) =>
          let (n, place) := dropTrailingZeros 400 n place
          placeDigits (Nat.toDigits 10 n) place
    String.ofList (if negative then '-' :: body else body)

end Binary64

end MailConnection
