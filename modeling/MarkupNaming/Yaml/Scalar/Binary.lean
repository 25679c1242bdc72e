import MarkupNaming.Yaml.Breach

/-!
# Binary scalars

Bytes written in base 64. Characters outside its alphabet are skipped, and a complete padding ends
the bytes.
-/
namespace MarkupNaming.Yaml
open Text

/-- The value of a character of the alphabet. -/
def sextet? (c : Code) : Option Nat :=
  if 'A' ≤ c ∧ c ≤ 'Z' then some (c.toNat - 65)
  else if 'a' ≤ c ∧ c ≤ 'z' then some (c.toNat - 71)
  else if '0' ≤ c ∧ c ≤ '9' then some (c.toNat + 4)
  else if c = '+' then some 62
  else if c = '/' then some 63
  else none

/-- The characters of the alphabet up to a complete padding, where `count` of them have been read
and `pads` padding characters behind the last one; and whether a padding completes them. -/
def sextets (count pads : Nat) : Text → List Nat × Bool
  | [] => ([], count % 4 == 0)
  | c :: rest =>
    if c = '=' then
      if 2 ≤ count % 4 then
        if 4 ≤ count % 4 + pads + 1 then ([], true) else sextets count (pads + 1) rest
      else sextets count pads rest
    else
      match sextet? c with
      | none => sextets count pads rest
      | some n =>
        let (more, complete) := sextets (count + 1) 0 rest
        (n :: more, complete)

/-- The bytes of sextets. -/
def bytesOf : List Nat → List UInt8
  | a :: b :: c :: d :: rest =>
    UInt8.ofNat (4 * a + b / 16) :: UInt8.ofNat (16 * b + c / 4) :: UInt8.ofNat (64 * c + d) ::
      bytesOf rest
  | [a, b, c] => [UInt8.ofNat (4 * a + b / 16), UInt8.ofNat (16 * b + c / 4)]
  | [a, b] => [UInt8.ofNat (4 * a + b / 16)]
  | _ => []

/-- What is said of the first run of characters that are not ASCII. -/
def notAsciiMessage (t : Text) : Text :=
  let start := (t.takeWhile fun c => c.toNat < 128).length
  let run := (t.drop start).takeWhile fun c => 128 ≤ c.toNat
  let place : Text :=
    match run with
    | [c] => "character '" ++ codeEscape c ++ "' in position " ++ ofNat start
    | _ => "characters in position " ++ ofNat start ++ "-" ++ ofNat (start + run.length - 1)
  "'ascii' codec can't encode " ++ place ++ ": ordinal not in range(128)"

/-- The bytes that a scalar writes. -/
def binaryOf (t : Text) : Except Breach (List UInt8) :=
  if t.any fun c => 128 ≤ c.toNat then .error (.notAscii (notAsciiMessage t))
  else
    let (found, complete) := sextets 0 0 t
    if complete then .ok (bytesOf found)
    else if found.length % 4 = 1 then
      .error <| .notBase64 <| "Invalid base64-encoded string: number of data characters ("
        ++ ofNat found.length ++ ") cannot be 1 more than a multiple of 4"
    else .error (.notBase64 "Incorrect padding")

end MarkupNaming.Yaml
