import MarkupNaming.Text.Basic

/-!
# Decimals

Binary floating-point numbers and the decimals that write them. A number is written with the
fewest digits of which no other number of its kind is nearer, and of those decimals as the one
that is nearest. A ratio becomes the binary number that is nearest to it. All comparisons are
between whole numbers, so none of them rounds.
-/
namespace MarkupNaming

/-- A finite binary number: a mantissa of at most 53 bits times a power of two. -/
structure Binary where
  negative : Bool
  mantissa : Nat
  exponent : Int
  /-- Whether the next smaller number is only half as far away as the next greater one. -/
  isLowest : Bool
deriving DecidableEq, Repr

namespace Binary

/-- A number by its 64 bits, none if they stand for infinity or for no number. -/
def ofFloat? (x : Float) : Option Binary :=
  let bits := x.toBits.toNat
  let exponent := (bits >>> 52) % 2048
  let fraction := bits % (1 <<< 52)
  if exponent = 2047 then none
  else some
    { negative := bits >>> 63 = 1
      mantissa := if exponent = 0 then fraction else fraction + (1 <<< 52)
      exponent := (max exponent 1 : Nat) - (1075 : Int)
      isLowest := fraction = 0 ∧ 1 < exponent }

variable (b : Binary)

/-- The integer that a number is, if it is one. -/
def whole? : Option Int :=
  let magnitude : Option Nat :=
    match b.exponent with
    | .ofNat places => some (b.mantissa <<< places)
    | .negSucc places =>
      let whole := b.mantissa >>> (places + 1)
      if whole <<< (places + 1) = b.mantissa then some whole else none
  magnitude.map fun n => if b.negative then -(n : Int) else n

/-- A number of quarters of the last place over a number of units. -/
def quarters (count : Nat) : Nat × Nat :=
  match b.exponent - 2 with
  | .ofNat places => (count <<< places, 1)
  | .negSucc places => (count, 1 <<< (places + 1))

/-- A ratio over a power of two. -/
def overPower (n d : Nat) : Int → Nat × Nat
  | .ofNat places => (n, d <<< places)
  | .negSucc places => (n <<< (places + 1), d)

/-- The exponent of the last place of the number nearest to a ratio. -/
def lastPlace (n d : Nat) : Int :=
  let place := max ((n.log2 : Int) - d.log2 - 53) (-1074)
  let (m, l) := overPower n d place
  if m < l <<< 53 then place else place + 1

/-- The whole number nearest to a ratio, of two the even one. -/
def roundedRatio (n d : Nat) : Nat :=
  let double := 2 * (n % d)
  n / d + if double < d ∨ (double = d ∧ n / d % 2 = 0) then 0 else 1

/-- The number nearest to a ratio, infinity if that has more than 1024 bits. Since the bits of
greater numbers are greater, a mantissa that is rounded up to 54 bits carries into the exponent. -/
def nearest (n d : Nat) : Float :=
  if n = 0 then 0
  else
    let place := lastPlace n d
    let (m, l) := overPower n d place
    let bits := ((place + 1074).toNat <<< 52) + roundedRatio m l
    Float.ofBits (UInt64.ofNat (min bits (2047 <<< 52)))

end Binary

/-- A decimal: digits in front of a number of zeros, or with that many digits behind the point. -/
structure Decimal where
  digits : Nat
  exponent : Int
deriving DecidableEq, Repr

namespace Decimal

/-- A decimal as a numerator and a denominator. -/
def ratio (d : Decimal) : Nat × Nat :=
  match d.exponent with
  | .ofNat zeros => (d.digits * Nat.pow 10 zeros, 1)
  | .negSucc places => (d.digits, Nat.pow 10 (places + 1))

/-- The floating-point number nearest to a decimal. Beyond four hundred digits in front of the
point it is infinite, and beyond as many zeros behind the point it is zero. -/
def toFloat (d : Decimal) : Float :=
  let size := (Text.ofNat d.digits).length + d.exponent
  if d.digits = 0 ∨ size < -400 then 0
  else if 400 < size then 1.0 / 0.0
  else Binary.nearest d.ratio.1 d.ratio.2

/-- Whether one ratio is at most another one. -/
def atMost (a b : Nat × Nat) : Bool := a.1 * b.2 ≤ b.1 * a.2

/-- Whether a decimal is nearer to a binary number than to any other one. A decimal halfway
between two numbers belongs to the one with the even mantissa. -/
def denotes (d : Decimal) (b : Binary) : Bool :=
  let least := b.quarters (4 * b.mantissa - if b.isLowest then 1 else 2)
  let greatest := b.quarters (4 * b.mantissa + 2)
  if b.mantissa % 2 = 0 then atMost least d.ratio && atMost d.ratio greatest
  else !atMost d.ratio least && !atMost greatest d.ratio

/-- How far a decimal is from a binary number, as a numerator over the product of the two
denominators. -/
def distance (d : Decimal) (b : Binary) : Nat :=
  let (n, m) := d.ratio
  let (k, l) := b.quarters (4 * b.mantissa)
  max (n * l) (k * m) - min (n * l) (k * m)

/-- The decimals with a given exponent on both sides of a binary number. -/
def neighbours (b : Binary) (exponent : Int) : Decimal × Decimal :=
  let (n, m) := b.quarters (4 * b.mantissa)
  let below := match exponent with
    | .ofNat zeros => n / (m * Nat.pow 10 zeros)
    | .negSucc places => n * Nat.pow 10 (places + 1) / m
  (⟨below, exponent⟩, ⟨below + 1, exponent⟩)

/-- The decimal with a given exponent that denotes a binary number, if there is one. -/
def withExponent? (b : Binary) (exponent : Int) : Option Decimal :=
  let (below, above) := neighbours b exponent
  match below.denotes b, above.denotes b with
  | true, true =>
    let (d, e) := (below.distance b, above.distance b)
    if d < e ∨ (d = e ∧ below.digits % 2 = 0) then some below else some above
  | true, false => some below
  | false, true => some above
  | false, false => none

/-- The shortest decimal for a binary number, tried from `exponent` downwards. -/
def shortestFrom (b : Binary) (exponent : Int) : Nat → Decimal
  | 0 => (neighbours b exponent).1
  | tries + 1 => (withExponent? b exponent).getD (shortestFrom b (exponent - 1) tries)

/-- The shortest decimal for a binary number. The least power of two has 324 places, and the
greatest 309 digits. -/
def shortest (b : Binary) : Decimal := shortestFrom b 309 (309 + 325)

/-- The number of digits in front of the point; it is negative for zeros behind the point. -/
def point (d : Decimal) : Int := (Text.ofNat d.digits).length + d.exponent

/-- A decimal with a point and at least one digit on either side of it. -/
def positional (d : Decimal) : Text :=
  let digits := Text.ofNat d.digits
  match d.exponent with
  | .ofNat zeros => digits ++ List.replicate zeros (Code.char '0') ++ (".0" : Text)
  | .negSucc places =>
    let padded := List.replicate (places + 2 - digits.length) (Code.char '0') ++ digits
    padded.take (padded.length - (places + 1)) ++ .char '.' ::
      padded.drop (padded.length - (places + 1))

/-- A decimal with one digit in front of its point and a power of ten. -/
def scientific (d : Decimal) : Text :=
  let digits := Text.ofNat d.digits
  let power := d.point - 1
  let size := Text.ofNat power.natAbs
  let padding : Text := List.replicate (2 - size.length) (Code.char '0')
  digits.take 1 ++ (if digits.length = 1 then [] else .char '.' :: digits.drop 1) ++
    .char 'e' :: (if power < 0 then .char '-' else .char '+') :: padding ++ size

/-- A decimal with up to sixteen digits in front of the point or three zeros behind it is written
out, any other one with a power of ten. -/
def text (d : Decimal) : Text :=
  if -4 < d.point ∧ d.point ≤ 16 then d.positional else d.scientific

end Decimal

/-- A floating-point number as its shortest decimal. -/
def Text.ofFloat (x : Float) : Text :=
  match Binary.ofFloat? x with
  | none => if x.isNaN then "nan" else if x < 0 then "-inf" else "inf"
  | some b =>
    let magnitude : Text := if b.mantissa = 0 then "0.0" else (Decimal.shortest b).text
    if b.negative then '-' :: magnitude else magnitude

end MarkupNaming
