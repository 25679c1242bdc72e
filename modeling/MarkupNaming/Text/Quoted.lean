import MarkupNaming.Text.Unprintable
import MarkupNaming.Text.Basic

/-!
# Quoted text

A text as a quoted literal in a message. Single quotes enclose it, unless it has a single quote
and no double quote. The enclosing quote, the backslash and unprintable characters are escaped.
-/
namespace MarkupNaming.Text

/-- An ASCII character shown as it is. -/
def isPrintableAscii (c : Code) : Bool := 32 ≤ c.toNat && c.toNat < 127

/-- A character shown as it is. -/
def isPrintable (c : Code) : Bool :=
  if c.toNat < 128 then isPrintableAscii c else !CharSet.contains ⟨unprintableRanges⟩ c

/-- The lowercase hexadecimal digits of a number, padded with zeros to `width`. -/
def hexDigits (width n : Nat) : Text :=
  let digits := digitsOf 16 n
  List.replicate (width - digits.length) (Code.char '0') ++ digits

/-- A character by its code point, in as few of 2, 4 or 8 digits as it takes. -/
def codeEscape (c : Code) : Text :=
  if c.toNat < 0x100 then '\\' :: 'x' :: hexDigits 2 c.toNat
  else if c.toNat < 0x10000 then '\\' :: 'u' :: hexDigits 4 c.toNat
  else '\\' :: 'U' :: hexDigits 8 c.toNat

/-- A text with its lone surrogates written as code points, so that it has bytes. -/
def spelled (t : Text) : Text := t.flatMap fun c => if c.isSurrogate then codeEscape c else [c]

/-- A character inside a literal enclosed in `quote`. -/
def quotedChar (isShown : Code → Bool) (quote c : Code) : Text :=
  if c = quote ∨ c = '\\' then ['\\', c]
  else if c = '\n' then ['\\', 'n']
  else if c = '\r' then ['\\', 'r']
  else if c = '\t' then ['\\', 't']
  else if isShown c then [c]
  else codeEscape c

/-- The quote that encloses a text. -/
def enclosingQuote (t : Text) : Code := if .char '\'' ∈ t ∧ .char '"' ∉ t then '"' else '\''

/-- A text as a quoted literal in which some characters are shown as they are. -/
def quotedWith (isShown : Code → Bool) (t : Text) : Text :=
  let quote := enclosingQuote t
  quote :: t.flatMap (quotedChar isShown quote) ++ [quote]

/-- A text as a quoted literal. -/
def quoted (t : Text) : Text := quotedWith isPrintable t

/-- Bytes as a quoted literal. -/
def quotedBytes (bytes : List UInt8) : Text :=
  'b' :: quotedWith isPrintableAscii (bytes.map fun b => Code.ofNat b.toNat)

end MarkupNaming.Text
