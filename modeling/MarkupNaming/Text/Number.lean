import MarkupNaming.Text.Blank
import MarkupNaming.Text.Word

/-!
# Written numbers

Digits and what they count, and integers as people write them: with a sign, with blanks around,
and with single underscores between the digits. The decimal digits of every script come in runs
of ten, and each of them counts as the ASCII digit of its value.
-/
namespace MarkupNaming.Text

/-- The zeros of the scripts outside the ASCII range, in the fourteenth edition of Unicode. -/
def zeros : List Nat :=
  [0x660, 0x6F0, 0x7C0, 0x966, 0x9E6, 0xA66, 0xAE6, 0xB66, 0xBE6, 0xC66, 0xCE6, 0xD66, 0xDE6,
    0xE50, 0xED0, 0xF20, 0x1040, 0x1090, 0x17E0, 0x1810, 0x1946, 0x19D0, 0x1A80, 0x1A90, 0x1B50,
    0x1BB0, 0x1C40, 0x1C50, 0xA620, 0xA8D0, 0xA900, 0xA9D0, 0xA9F0, 0xAA50, 0xABF0, 0xFF10,
    0x104A0, 0x10D30, 0x11066, 0x110F0, 0x11136, 0x111D0, 0x112F0, 0x11450, 0x114D0, 0x11650,
    0x116C0, 0x11730, 0x118E0, 0x11950, 0x11C50, 0x11D50, 0x11DA0, 0x16A60, 0x16AC0, 0x16B50,
    0x1D7CE, 0x1D7D8, 0x1D7E2, 0x1D7EC, 0x1D7F6, 0x1E140, 0x1E2F0, 0x1E950, 0x1FBF0]

/-- The value of an ASCII digit. -/
def asciiDigit? (c : Code) : Option Nat :=
  if isAsciiDigit c then some (c.toNat - '0'.toNat) else none

/-- The value of a hexadecimal digit. -/
def hexDigit? (c : Code) : Option Nat :=
  if isAsciiDigit c then some (c.toNat - '0'.toNat)
  else if 'a' ≤ c ∧ c ≤ 'f' then some (c.toNat - 'a'.toNat + 10)
  else if 'A' ≤ c ∧ c ≤ 'F' then some (c.toNat - 'A'.toNat + 10)
  else none

/-- The value of a decimal digit of any script. -/
def digit? (c : Code) : Option Nat :=
  (asciiDigit? c).or <|
    (zeros.find? fun start => start ≤ c.toNat && c.toNat < start + 10).map (c.toNat - ·)

/-- The number that digits of a base write. -/
def numberOf (base : Nat) (digits : List Nat) : Nat := digits.foldl (fun n d => base * n + d) 0

/-- The number written by ASCII digits only. -/
def plainNumber? (t : Text) : Option Nat :=
  if t.isEmpty then none else (t.mapM asciiDigit?).map (numberOf 10)

/-- The number written by digits of a base in groups that single underscores join. -/
def groupedNumber? (base : Nat) (value? : Code → Option Nat) (t : Text) : Option Nat :=
  let groups := splitAll (· == .char '_') t
  if groups.any (·.isEmpty) then none else (groups.flatten.mapM value?).map (numberOf base)

/-- The blanks that are ignored around a written number: all but the information separators. -/
def isNumberPadding (c : Code) : Bool := isBlank c && !(0x1C ≤ c.toNat && c.toNat ≤ 0x1F)

/-- A text without the padding of a number. -/
def unpadded (t : Text) : Text :=
  ((t.dropWhile isNumberPadding).reverse.dropWhile isNumberPadding).reverse

/-- A sign, which is minus or not, and what follows it. -/
def splitSign : Text → Bool × Text
  | '-' :: rest => (true, rest)
  | '+' :: rest => (false, rest)
  | t => (false, t)

/-- A number with its sign. -/
def withSign (negative : Bool) (n : Int) : Int := if negative then -n else n

/-- The value of a digit of a base up to sixteen, in any script. -/
def digitOfBase? (base : Nat) (c : Code) : Option Nat :=
  ((digit? c).or (hexDigit? c)).filter (· < base)

/-- The letter that may follow a zero in front of the digits of a base. -/
def baseMark? (base : Nat) : Option Code :=
  ([(2, 'b'), (8, 'o'), (16, 'x')] : List (Nat × Code)).lookup base

/-- The digits behind a sign, without the mark of their base. -/
def unmarked (base : Nat) (t : Text) : Text :=
  match t, baseMark? base with
  | '0' :: c :: rest, some mark => if c.toLower = mark then rest else t
  | _, _ => t

/-- Why a text writes no integer. -/
inductive IntegerFault
  | malformed
  | tooLong (digits : Nat)
deriving DecidableEq, Repr

/-- How many digits an integer may have in base ten. -/
def digitLimit : Nat := 4300

/-- The integer that a text writes in a base. The digits at its front are counted before what
stands behind them is seen. -/
def integerOfBase (base : Nat) (t : Text) : Except IntegerFault Int :=
  let (negative, unsigned) := splitSign (unpadded t)
  let written := unmarked base unsigned
  let front := written.takeWhile fun c => c == .char '_' || (digitOfBase? base c).isSome
  let count := (front.filter (· != .char '_')).length
  if (splitAll (· == .char '_') front).any (·.isEmpty) then .error .malformed
  else if base = 10 ∧ digitLimit < count then .error (.tooLong count)
  else if front.length < written.length then .error .malformed
  else
    match groupedNumber? base (digitOfBase? base) front with
    | some n => .ok (withSign negative n)
    | none => .error .malformed

/-- The integer that a text writes in base ten. -/
def writtenInteger? (t : Text) : Option Int := (integerOfBase 10 t).toOption

end MarkupNaming.Text
