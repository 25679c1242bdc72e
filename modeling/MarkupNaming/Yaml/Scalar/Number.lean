import MarkupNaming.Decimal
import MarkupNaming.Text.Case
import MarkupNaming.Text.Number
import MarkupNaming.Yaml.Fault

/-!
# Numbers

The numbers that scalars write. Underscores have no meaning. An integer may be written in binary,
octal, decimal or hexadecimal digits, and like a real number as a sequence of sixtieths.
-/
namespace MarkupNaming.Yaml
open Text

/-- A text without its underscores. -/
def withoutUnderscores (t : Text) : Text := t.filter (· != .char '_')

/-- The integer that a part of a scalar writes in a base. -/
def integerIn (base : Nat) (t : Text) : Except ScalarFault Int :=
  (integerOfBase base t).mapError fun
    | .malformed => .integer base t
    | .tooLong digits => .longInteger digits

/-- The value of numbers each of which counts sixty of the next. -/
def sixtieths (parts : List Int) : Int := parts.foldl (fun n part => 60 * n + part) 0

/-- The integer that a scalar writes. -/
def integerOf (t : Text) : Except ScalarFault Int :=
  match withoutUnderscores t with
  | [] => .error .emptyNumber
  | written =>
    let (negative, unsigned) := splitSign written
    (withSign negative ·) <$>
      match unsigned with
      | [] => .error .emptyNumber
      | ['0'] => .ok 0
      | '0' :: 'b' :: rest => integerIn 2 rest
      | '0' :: 'x' :: rest => integerIn 16 rest
      | '0' :: _ => integerIn 8 unsigned
      | _ =>
        if .char ':' ∈ unsigned then
          sixtieths <$> (splitAll (· == .char ':') unsigned).mapM (integerIn 10)
        else integerIn 10 unsigned

/-- Digits of any script as ASCII digits. -/
def withPlainDigits (t : Text) : Text :=
  t.map fun c =>
    match digit? c with
    | some n => Code.ofNat ('0'.toNat + n)
    | none => c

/-- The real number written by ASCII digits with a fraction and an exponent. -/
def decimal? (t : Text) : Option Float := do
  let whole := t.takeWhile isAsciiDigit
  let rest := t.drop whole.length
  let fraction := match rest with
    | '.' :: rest => rest.takeWhile isAsciiDigit
    | _ => []
  let rest := match rest with
    | '.' :: rest => rest.drop fraction.length
    | _ => rest
  let exponent : Int ← match rest with
    | [] => some 0
    | 'e' :: rest =>
      let (negative, digits) := splitSign rest
      (plainNumber? digits).map fun n => withSign negative n
    | _ => none
  let digits ← plainNumber? (whole ++ fraction)
  return Decimal.toFloat ⟨digits, exponent - fraction.length⟩

/-- The real number written in lowercase, with blanks around it and a sign. -/
def floatOf (t : Text) : Except ScalarFault Float :=
  let (negative, unsigned) := splitSign (unpadded t)
  let magnitude :=
    if unsigned = ("inf" : Text) ∨ unsigned = ("infinity" : Text) then some (1.0 / 0.0)
    else if unsigned = ("nan" : Text) then some (0.0 / 0.0)
    else decimal? (withPlainDigits unsigned)
  match magnitude with
  | some x => .ok (if negative then -x else x)
  | none => .error (.real t)

/-- The sum of numbers each of which counts sixty of the one in front of it. The first one counts
`unit`, which must not be too large for a real number. -/
def sumOfSixtieths (unit : Nat) (sum : Float) : List Float → Except ScalarFault Float
  | [] => .ok sum
  | part :: rest =>
    let scale := Binary.nearest unit 1
    if scale.isInf then .error .largeInteger
    else sumOfSixtieths (60 * unit) (sum + part * scale) rest

/-- The real number that a scalar writes. -/
def realOf (t : Text) : Except ScalarFault Float :=
  match lower (withoutUnderscores t) with
  | [] => .error .emptyNumber
  | written =>
    let (negative, unsigned) := splitSign written
    if unsigned = (".nan" : Text) then .ok (0.0 / 0.0)
    else
      (fun x : Float => if negative then -x else x) <$>
        if unsigned = (".inf" : Text) then .ok (1.0 / 0.0)
        else if .char ':' ∈ unsigned then do
          let parts ← (splitAll (· == .char ':') unsigned).mapM floatOf
          sumOfSixtieths 1 0 parts.reverse
        else floatOf unsigned

end MarkupNaming.Yaml
