import MarkupNaming.Text.Quoted

/-!
# UTF-8

Texts as bytes. Lone surrogates have no bytes of their own, so a text that holds one is encoded
only where surrogates stand for bytes. Decoding is strict: overlong forms, surrogates and code
points past the last one are faults, and a fault tells which bytes cannot be read and why.
-/
namespace MarkupNaming.Utf8

/-- Why bytes encode no text. -/
inductive Reason
  | start
  | continuation
  | ending
deriving DecidableEq, Repr

namespace Reason

def message : Reason → Text
  | start => "invalid start byte"
  | continuation => "invalid continuation byte"
  | ending => "unexpected end of data"

end Reason

/-- A run of bytes, with the offset of the first one, that encodes no character. -/
structure Fault where
  offset : Nat
  first : UInt8
  /-- How many bytes follow the first one. -/
  others : Nat
  reason : Reason
deriving DecidableEq, Repr

namespace Fault

def message (f : Fault) : Text :=
  let place : Text :=
    if f.others = 0 then
      "byte 0x" ++ Text.hexDigits 2 f.first.toNat ++ " in position " ++ Text.ofNat f.offset
    else "bytes in position " ++ Text.ofNat f.offset ++ "-" ++ Text.ofNat (f.offset + f.others)
  "'utf-8' codec can't decode " ++ place ++ ": " ++ f.reason.message

end Fault

/-- What becomes of lone surrogates when a text is encoded. -/
inductive Handler
  /-- None of them is encoded. -/
  | strict
  /-- Those from U+DC80 to U+DCFF stand for the bytes 80 to FF, which encode no character where
  they were found. -/
  | escape
deriving DecidableEq, Repr

namespace Handler

/-- The bytes of a code point, if it has any. -/
def bytes? : Handler → Code → Option (List UInt8)
  | _, .char c => some (String.utf8EncodeChar c)
  | strict, .surrogate _ => none
  | escape, .surrogate n =>
    if 0x480 ≤ n.val ∧ n.val ≤ 0x4FF then some [UInt8.ofNat (n.val - 0x400)] else none

/-- Whether a code point has bytes. -/
def covers (h : Handler) (c : Code) : Bool := (h.bytes? c).isSome

end Handler

/-- A text without bytes, with the offset of the first surrogate that has none. -/
structure Unencodable where
  text : Text
  offset : Nat
  /-- How many surrogates follow that one. -/
  others : Nat
deriving DecidableEq, Repr

namespace Unencodable

def reason : Text := "surrogates not allowed"

def message (u : Unencodable) : Text :=
  let place : Text :=
    if u.others = 0 then
      "character '" ++ (u.text[u.offset]?.map Text.codeEscape).getD [] ++ "' in position " ++
        Text.ofNat u.offset
    else "characters in position " ++ Text.ofNat u.offset ++ "-" ++ Text.ofNat (u.offset + u.others)
  "'utf-8' codec can't encode " ++ place ++ ": " ++ reason

end Unencodable

/-- The bytes of a text. -/
def encode (h : Handler) (t : Text) : Except Unencodable (List UInt8) :=
  match t.findIdx? (!h.covers ·) with
  | none => .ok (t.flatMap fun c => (h.bytes? c).getD [])
  | some offset =>
    .error ⟨t, offset, ((t.drop (offset + 1)).takeWhile Code.isSurrogate).length⟩

/-- The bytes of a string. -/
def ofString (s : String) : List UInt8 := s.toList.flatMap String.utf8EncodeChar

instance coeString : Coe String (List UInt8) := ⟨ofString⟩

/-- A byte that continues a character. -/
def isContinuation (b : UInt8) : Bool := 0x80 ≤ b && b ≤ 0xBF

/-- Whether a byte can follow the first byte of a character of several bytes. -/
def canFollow (first b : UInt8) : Bool :=
  isContinuation b &&
    !(first == 0xE0 && b < 0xA0) && !(first == 0xED && 0x9F < b) &&
    !(first == 0xF0 && b < 0x90) && !(first == 0xF4 && 0x8F < b)

/-- How many bytes follow the first one of a character. -/
def followers? (first : UInt8) : Option Nat :=
  if first < 0x80 then some 0
  else if 0xC2 ≤ first && first ≤ 0xDF then some 1
  else if 0xE0 ≤ first && first ≤ 0xEF then some 2
  else if 0xF0 ≤ first && first ≤ 0xF4 then some 3
  else none

/-- The number of bytes behind `first` that can belong to its character, out of `count`. -/
def followed (first : UInt8) (count : Nat) (rest : List UInt8) : Nat :=
  match count, rest with
  | count + 1, b :: rest =>
    if canFollow first b then 1 + ((rest.take count).takeWhile isContinuation).length else 0
  | _, _ => 0

/-- The code point of a first byte and the bytes behind it. -/
def codePoint (first : UInt8) (rest : List UInt8) : Nat :=
  let high := match rest.length with
    | 0 => first.toNat
    | 1 => first.toNat % 32
    | 2 => first.toNat % 16
    | _ => first.toNat % 8
  rest.foldl (fun n b => 64 * n + b.toNat % 64) high

/-- The text encoded by bytes that start at an offset. -/
def decodeFrom (offset : Nat) (bytes : List UInt8) : Except Fault Text :=
  match bytes with
  | [] => .ok []
  | first :: rest =>
    match followers? first with
    | none => .error ⟨offset, first, 0, .start⟩
    | some count =>
      let found := followed first count rest
      if found = count then
        match decodeFrom (offset + count + 1) (rest.drop count) with
        | .ok t => .ok (Char.ofNat (codePoint first (rest.take count)) :: t)
        | .error fault => .error fault
      else if rest.length = found then .error ⟨offset, first, found, .ending⟩
      else .error ⟨offset, first, found, .continuation⟩
termination_by bytes.length
decreasing_by simp only [List.length_drop, List.length_cons]; omega

/-- The text that bytes encode. -/
def decode (bytes : List UInt8) : Except Fault Text := decodeFrom 0 bytes

end MarkupNaming.Utf8
