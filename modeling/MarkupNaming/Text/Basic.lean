/-!
# Text

A text is the list of its code points. Offsets and lengths count code points, and a string
literal stands for the text it spells. Signed positions count from the end when negative and
are clamped to the text otherwise.

A code point is a character or a lone surrogate. Lone surrogates stand in names of files and in
arguments for the bytes that encode no character, and the escapes of quoted scalars can write
them. No encoding of a text as bytes has a form of its own for them.
-/
namespace MarkupNaming

/-- A code point of a text. -/
inductive Code
  | char (c : Char)
  /-- The surrogate that many places behind U+D800. -/
  | surrogate (n : Fin 0x800)
deriving DecidableEq, Repr

namespace Code

instance : Coe Char Code := ⟨char⟩

instance : Inhabited Code := ⟨' '⟩

/-- The number of a code point. -/
def toNat : Code → Nat
  | char c => c.toNat
  | surrogate n => 0xD800 + n

@[simp] theorem toNat_char (c : Char) : (char c).toNat = c.toNat := rfl
@[simp] theorem toNat_surrogate (n : Fin 0x800) : (surrogate n).toNat = 0xD800 + n := rfl

/-- The code point of a number below U+110000. -/
def ofNat (n : Nat) : Code :=
  if h : 0xD800 ≤ n ∧ n < 0xE000 then surrogate ⟨n - 0xD800, by omega⟩ else char (Char.ofNat n)

@[simp] theorem ofNat_toNat (c : Code) : ofNat c.toNat = c := by
  cases c with
  | char c =>
    have hvalid := c.valid
    rw [UInt32.isValidChar, Nat.isValidChar] at hvalid
    have hscalar : ¬(0xD800 ≤ c.toNat ∧ c.toNat < 0xE000) := by
      change _ < _ ∨ _ < _ ∧ _ at hvalid
      simp only [Char.toNat]
      omega
    simp [ofNat, hscalar, Char.ofNat_toNat]
  | surrogate n =>
    have hrange : 0xD800 ≤ 0xD800 + (n : Nat) ∧ 0xD800 + (n : Nat) < 0xE000 := by omega
    simp [ofNat, hrange]

theorem toNat_ofNat {n : Nat} (h : n < 0x110000) : (ofNat n).toNat = n := by
  unfold ofNat
  split
  · simp only [toNat_surrogate]
    omega
  · have hvalid : n.isValidChar := by unfold Nat.isValidChar; omega
    rw [Char.ofNat, dif_pos hvalid]
    rfl

theorem toNat_lt (c : Code) : c.toNat < 0x110000 := by
  cases c with
  | char c =>
    have hvalid := c.valid
    simp only [UInt32.isValidChar, Nat.isValidChar] at hvalid
    simp only [toNat_char, Char.toNat]
    omega
  | surrogate n =>
    simp only [toNat_surrogate]
    omega

instance : LE Code := ⟨fun c d => c.toNat ≤ d.toNat⟩

instance (c d : Code) : Decidable (c ≤ d) := Nat.decLe ..

theorem le_iff_toNat_le {c d : Code} : c ≤ d ↔ c.toNat ≤ d.toNat := Iff.rfl

/-- Whether a code point is a lone surrogate. -/
def isSurrogate : Code → Bool
  | char _ => false
  | surrogate _ => true

/-- The lowercase of an ASCII letter; any other code point as it is. -/
def toLower : Code → Code
  | char c => c.toLower
  | surrogate n => surrogate n

/-- The uppercase of an ASCII letter; any other code point as it is. -/
def toUpper : Code → Code
  | char c => c.toUpper
  | surrogate n => surrogate n

end Code

/-- A sequence of code points. -/
abbrev Text := List Code

instance : Coe String Text := ⟨fun s => s.toList.map Code.char⟩

instance : LawfulBEq Text := inferInstanceAs (LawfulBEq (List Code))

namespace Text
variable {t : Text}

/-- The digits of a number in a base up to sixteen. -/
def digitsOf (base n : Nat) : Text := (Nat.toDigits base n).map Code.char

/-- Decimal digits of a number. -/
def ofNat (n : Nat) : Text := digitsOf 10 n

/-- Decimal digits of an integer, after a minus sign when it is negative. -/
def ofInt : Int → Text
  | .ofNat n => ofNat n
  | .negSucc n => '-' :: ofNat (n + 1)

/-- The place that a signed position names: a negative one is counted from the end. -/
def place (t : Text) (i : Int) : Nat := if i < 0 then (t.length + i).toNat else i.toNat

/-- The part before a signed position. -/
def upTo (t : Text) (i : Int) : Text := t.take (t.place i)

/-- The part from a signed position on. -/
def onward (t : Text) (i : Int) : Text := t.drop (t.place i)

@[simp] theorem place_natCast (t : Text) (n : Nat) : t.place n = n := by
  unfold place
  rw [if_neg (by omega), Int.toNat_natCast]
@[simp] theorem upTo_natCast (t : Text) (n : Nat) : t.upTo n = t.take n := by simp [upTo]
@[simp] theorem onward_natCast (t : Text) (n : Nat) : t.onward n = t.drop n := by simp [onward]

@[simp] theorem upTo_append_onward (t : Text) (i : Int) : t.upTo i ++ t.onward i = t :=
  List.take_append_drop ..

/-- The part from `start` up to `stop`, empty when they cross. -/
def slice (t : Text) (start stop : Nat) : Text := (t.take stop).drop start

/-- Texts joined with a separator between neighbours. -/
def join (separator : Text) (parts : List Text) : Text := List.intercalate separator parts

/-- Offset of the first occurrence of `part`. -/
def indexOf? (part : Text) : Text → Option Nat
  | [] => if part.isEmpty then some 0 else none
  | c :: rest =>
    if part.isPrefixOf (c :: rest) then some 0 else (indexOf? part rest).map (· + 1)

/-- Whether `part` occurs in the text. -/
def contains (t part : Text) : Bool := (indexOf? part t).isSome

/-- Pieces between the characters satisfying `isSeparator`; always at least one piece. -/
def splitAll (isSeparator : Code → Bool) : Text → List Text
  | [] => [[]]
  | c :: rest =>
    match splitAll isSeparator rest with
    | [] => [[]]
    | piece :: pieces =>
      if isSeparator c then [] :: piece :: pieces else (c :: piece) :: pieces

end Text

/-- A set of characters listed as closed ranges of code points. -/
structure CharSet where
  ranges : List (Nat × Nat)

namespace CharSet

/-- Whether a character lies in one of the ranges. -/
def contains (s : CharSet) (c : Code) : Bool :=
  s.ranges.any fun (first, last) => first ≤ c.toNat && c.toNat ≤ last

end CharSet
end MarkupNaming
