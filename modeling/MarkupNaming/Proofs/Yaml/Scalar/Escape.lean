import Mathlib.Algebra.Group.Nat.Defs
import MarkupNaming.Proofs.Yaml.Position
import MarkupNaming.Yaml.Scalar.Quoted
import MarkupNaming.Yaml.Scalar.Written

/-!
# Reading escapes

The escape of a character stands for that character: the letters of the two tables belong
together, and the digits of a code point are as many as the letter in front of them asks for.
-/
namespace MarkupNaming.Yaml
open Text Written

/-! ## Digits -/

/-- The digits of a number write that number in either case. -/
theorem exists_mapM_hexDigit_digitsOf (n : Nat) :
    ∃ digits, ((digitsOf 16 n).map Code.toUpper).mapM hexDigit? = some digits ∧
      numberOf 16 digits = n := by
  have hdigit : ∀ d < 16, hexDigit? (Code.toUpper (Nat.digitChar d)) = some d := by decide
  induction n using Nat.strongRecOn with
  | ind n ih =>
    by_cases hlt : n < 16
    · refine ⟨[n], ?_, by simp [numberOf]⟩
      rw [digitsOf, Nat.toDigits_of_lt_base hlt]
      simp [hdigit n hlt]
    · obtain ⟨digits, hread, hnumber⟩ := ih (n / 16) (by omega)
      have hlast := hdigit (n % 16) (Nat.mod_lt _ (by decide))
      refine ⟨digits ++ [n % 16], ?_, ?_⟩
      · rw [digitsOf, Nat.toDigits_of_base_le (by decide) (by omega), List.map_append,
          List.map_append, List.mapM_append, ← digitsOf, hread]
        simp [hlast]
      · rw [numberOf, List.foldl_append, ← numberOf, hnumber]
        simpa using Nat.div_add_mod n 16

/-- Zeros in front of digits do not count. -/
theorem numberOf_replicate_zero (count : Nat) (digits : List Nat) :
    numberOf 16 (List.replicate count 0 ++ digits) = numberOf 16 digits := by
  induction count with
  | zero => rfl
  | succ count ih => simpa [numberOf, List.replicate_succ] using ih

theorem length_hexDigits {width n : Nat} (hpos : 0 < width) (h : n < 16 ^ width) :
    (hexDigits width n).length = width := by
  have := (Nat.length_toDigits_le_iff (by decide) hpos).2 h
  rw [hexDigits, List.length_append, List.length_replicate, digitsOf, List.length_map]
  omega

/-- Digits padded to a width are read as the number they write. -/
theorem hexNumber?_hexDigits {width n : Nat} (hpos : 0 < width) (h : n < 16 ^ width) (t : Text) :
    hexNumber? width ((hexDigits width n).map Code.toUpper ++ t) = some n := by
  obtain ⟨digits, hread, hnumber⟩ := exists_mapM_hexDigit_digitsOf n
  have hlength : ((hexDigits width n).map Code.toUpper).length = width := by
    rw [List.length_map, length_hexDigits hpos h]
  have hzeros (count : Nat) : (List.replicate count (Code.toUpper '0')).mapM hexDigit? =
      some (List.replicate count 0) := by
    induction count with
    | zero => rfl
    | succ count ih =>
      rw [List.replicate_succ, List.mapM_cons, ih]
      rfl
  have hall : ((hexDigits width n).map Code.toUpper).mapM hexDigit? =
      some (List.replicate (width - (digitsOf 16 n).length) 0 ++ digits) := by
    rw [hexDigits, List.map_append, List.map_replicate, List.mapM_append, hzeros, hread]
    rfl
  have hlt : ¬((hexDigits width n).map Code.toUpper ++ t).length < width := by
    rw [List.length_append, hlength]
    omega
  rw [hexNumber?, if_neg hlt, List.take_left' hlength, hall, Option.map_some,
    numberOf_replicate_zero, hnumber]

theorem charOf_toNat (c : Code) : charOf c.toNat = .ok c := by
  have hlt := c.toNat_lt
  rw [charOf, if_neg (by omega), if_neg (by omega), Code.ofNat_toNat]

/-! ## Escapes -/

/-- The letter of a code point tells how many digits follow. -/
theorem exists_codeEscape (c : Code) :
    ∃ letter width, codeEscape c = .char '\\' :: letter :: hexDigits width c.toNat ∧
      escapes.lookup letter = none ∧ escapeWidth? letter = some width ∧ 0 < width ∧
        c.toNat < 16 ^ width := by
  have hlt := c.toNat_lt
  unfold codeEscape
  split
  · exact ⟨'x', 2, rfl, rfl, rfl, by decide, by omega⟩
  · split
    · exact ⟨'u', 4, rfl, rfl, rfl, by decide, by omega⟩
    · exact ⟨'U', 8, rfl, rfl, rfl, by decide, by omega⟩

theorem mem_of_lookup {α β : Type} [BEq α] [LawfulBEq α] {table : List (α × β)} {a : α} {b : β}
    (h : table.lookup a = some b) : (a, b) ∈ table := by
  obtain ⟨front, back, hsplit, -⟩ := List.lookup_eq_some_iff.1 h
  simp [hsplit]

/-- An escape is a letter of its own, or one that tells how many digits follow. -/
theorem escape_cases (c : Code) :
    (∃ letter, escape c = [.char '\\', letter] ∧ escapes.lookup letter = some c) ∨
      ∃ letter width, escape c =
        .char '\\' :: letter :: (hexDigits width c.toNat).map Code.toUpper ∧
        escapes.lookup letter = none ∧ escapeWidth? letter = some width ∧ 0 < width ∧
          c.toNat < 16 ^ width := by
  have htables : ∀ p ∈ escapeLetters, escapes.lookup p.2 = some p.1 := by decide
  unfold escape
  split
  · next letter hletter => exact .inl ⟨letter, rfl, htables _ (mem_of_lookup hletter)⟩
  · obtain ⟨letter, width, hcode, hwidth⟩ := exists_codeEscape c
    rw [hcode]
    exact .inr ⟨letter, width, rfl, hwidth⟩

theorem exists_escape (c : Code) : ∃ body, escape c = .char '\\' :: body := by
  rcases escape_cases c with ⟨letter, h, -⟩ | ⟨letter, width, h, -⟩
  · exact ⟨_, h⟩
  · exact ⟨_, h⟩

/-- The escape of a character, behind its backslash, counts as that character. -/
theorem readEscape_escape {c : Code} {t body : Text} {s : Source} (start : Mark)
    (hbody : escape c = .char '\\' :: body) (h : s.rest = body ++ t) :
    readEscape start s = .ok ([c], s.skip body.length) := by
  rcases escape_cases c with ⟨letter, hescape, hletter⟩ |
    ⟨letter, width, hescape, hletter, hwidth, hpos, hlt⟩
  · obtain rfl : body = [letter] := (List.cons.inj (hbody.symm.trans hescape)).2
    rw [readEscape, h]
    simp only [List.cons_append, hletter]
    rfl
  · obtain rfl : body = letter :: (hexDigits width c.toNat).map Code.toUpper :=
      (List.cons.inj (hbody.symm.trans hescape)).2
    rw [readEscape, h]
    simp only [List.cons_append, hletter, hwidth, hexNumber?_hexDigits hpos hlt, charOf_toNat]
    rw [List.length_cons, List.length_map, length_hexDigits hpos hlt]
    rfl

end MarkupNaming.Yaml
