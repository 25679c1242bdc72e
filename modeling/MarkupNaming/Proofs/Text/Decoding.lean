import MarkupNaming.Proofs.Text.Encoding

/-!
# Decoding

Bytes that decode to a text are those that the text is encoded as. Each character has one form
only, since overlong forms and surrogates are faults, so nothing is lost in decoding.
-/
namespace MarkupNaming.Utf8
variable {first : UInt8} {count : Nat} {rest : List UInt8}

theorem toNat_ofNat {v : Nat} (h : v < 0xD800 ∨ (0xDFFF < v ∧ v < 0x110000)) :
    (Char.ofNat v).toNat = v := by
  rw [Char.ofNat, dif_pos h]
  rfl

/-- The bytes that follow the first one of a character. -/
theorem exists_of_followed (h : followed first (count + 1) rest = count + 1) :
    ∃ b more tail, rest = b :: (more ++ tail) ∧ more.length = count ∧ canFollow first b = true ∧
      ∀ d ∈ more, isContinuation d = true := by
  cases rest with
  | nil => cases h
  | cons b rest =>
    rw [followed] at h
    split at h
    · next hb =>
      have hlength : ((rest.take count).takeWhile isContinuation).length = count := by omega
      have hfront := List.takeWhile_prefix isContinuation (l := rest.take count)
      have hall : (rest.take count).takeWhile isContinuation = rest.take count :=
        hfront.eq_of_length (by
          have := List.length_take_le count rest
          have := hfront.length_le
          omega)
      refine ⟨b, rest.take count, rest.drop count, by rw [List.take_append_drop], ?_, hb, ?_⟩
      · rw [← hall, hlength]
      · exact List.takeWhile_eq_self_iff.1 hall
    · cases h

/-! ## Characters -/

variable {b : UInt8} {more : List UInt8}

/-- The values of first bytes, by the number of bytes that follow. -/
theorem toNat_of_followers? (h : followers? first = some count) :
    (count = 0 ∧ first.toNat < 128) ∨ (count = 1 ∧ 194 ≤ first.toNat ∧ first.toNat ≤ 223) ∨
      (count = 2 ∧ 224 ≤ first.toNat ∧ first.toNat ≤ 239) ∨
      (count = 3 ∧ 240 ≤ first.toNat ∧ first.toNat ≤ 244) := by
  rw [← UInt8.ofNat_toNat (x := first), followers?_ofNat first.toNat_lt] at h
  repeat' split at h
  all_goals
    cases h
    try omega

theorem toNat_of_isContinuation (h : isContinuation b = true) :
    128 ≤ b.toNat ∧ b.toNat ≤ 191 := by
  rw [← UInt8.ofNat_toNat (x := b), isContinuation_ofNat b.toNat_lt] at h
  exact of_decide_eq_true h

theorem toNat_of_canFollow (h : canFollow first b = true) :
    128 ≤ b.toNat ∧ b.toNat ≤ 191 ∧ (first.toNat = 224 → 160 ≤ b.toNat) ∧
      (first.toNat = 237 → b.toNat ≤ 159) ∧ (first.toNat = 240 → 144 ≤ b.toNat) ∧
      (first.toNat = 244 → b.toNat ≤ 143) := by
  rw [← UInt8.ofNat_toNat (x := first), ← UInt8.ofNat_toNat (x := b),
    canFollow_ofNat first.toNat_lt b.toNat_lt] at h
  simpa only [UInt8.ofNat_toNat] using of_decide_eq_true h

theorem ofNat_eq {n : Nat} (h : n = b.toNat) : UInt8.ofNat n = b := by
  rw [h, UInt8.ofNat_toNat]

/-- A character of one byte is encoded as that byte. -/
theorem utf8EncodeChar_codePoint_nil (h : followers? first = some 0) :
    String.utf8EncodeChar (Char.ofNat (codePoint first [])) = [first] := by
  have hfirst : first.toNat < 128 := by
    have := toNat_of_followers? h
    omega
  have hvalue : codePoint first [] = first.toNat := rfl
  rw [hvalue, utf8EncodeChar_eq, toNat_ofNat (.inl (by omega)), if_pos (by omega),
    UInt8.ofNat_toNat]

/-- A character of several bytes is encoded as these. -/
theorem utf8EncodeChar_codePoint (hcount : followers? first = some (more.length + 1))
    (hb : canFollow first b = true) (hmore : ∀ d ∈ more, isContinuation d = true) :
    String.utf8EncodeChar (Char.ofNat (codePoint first (b :: more))) = first :: b :: more := by
  have hfirst := toNat_of_followers? hcount
  have hb := toNat_of_canFollow hb
  match more, hmore with
  | [], _ =>
    have hvalue : codePoint first [b] = 64 * (first.toNat % 32) + b.toNat % 64 := rfl
    simp only [List.length_nil] at hfirst
    rw [hvalue, utf8EncodeChar_eq, toNat_ofNat (by omega), if_neg (by omega), if_pos (by omega),
      ofNat_eq (b := first) (by omega), ofNat_eq (b := b) (by omega)]
  | [c], hmore =>
    have hc := toNat_of_isContinuation (hmore c (by simp))
    have hvalue : codePoint first [b, c] =
        64 * (64 * (first.toNat % 16) + b.toNat % 64) + c.toNat % 64 := rfl
    simp only [List.length_cons, List.length_nil] at hfirst
    rw [hvalue, utf8EncodeChar_eq, toNat_ofNat (by omega), if_neg (by omega), if_neg (by omega),
      if_pos (by omega), ofNat_eq (b := first) (by omega), ofNat_eq (b := b) (by omega),
      ofNat_eq (b := c) (by omega)]
  | [c, d], hmore =>
    have hc := toNat_of_isContinuation (hmore c (by simp))
    have hd := toNat_of_isContinuation (hmore d (by simp))
    have hvalue : codePoint first [b, c, d] =
        64 * (64 * (64 * (first.toNat % 8) + b.toNat % 64) + c.toNat % 64) + d.toNat % 64 := rfl
    simp only [List.length_cons, List.length_nil] at hfirst
    rw [hvalue, utf8EncodeChar_eq, toNat_ofNat (by omega), if_neg (by omega), if_neg (by omega),
      if_neg (by omega), ofNat_eq (b := first) (by omega), ofNat_eq (b := b) (by omega),
      ofNat_eq (b := c) (by omega), ofNat_eq (b := d) (by omega)]
  | _ :: _ :: _ :: _, _ =>
    simp only [List.length_cons] at hfirst
    omega

/-- The bytes that decode to a text are those that it is encoded as. -/
theorem encode_of_decodeFrom {offset : Nat} {bytes : List UInt8} {t : Text}
    (h : decodeFrom offset bytes = .ok t) : encode .strict t = .ok bytes := by
  induction hlength : bytes.length using Nat.strongRecOn generalizing offset bytes t with
  | ind n ih =>
    cases bytes with
    | nil =>
      rw [decodeFrom] at h
      obtain rfl := Except.ok.inj h
      exact encode_nil _
    | cons first rest =>
      rw [decodeFrom] at h
      split at h
      · cases h
      · next count hcount =>
        dsimp only at h
        split at h
        · next hfound =>
          split at h
          · next u hu =>
            obtain rfl := Except.ok.inj h
            have hrest : encode .strict u = .ok (rest.drop count) := ih _ (by
              rw [← hlength, List.length_drop, List.length_cons]
              omega) hu rfl
            have hfirst (c : Char) :
                encode .strict [Code.char c] = .ok (String.utf8EncodeChar c) := by
              simpa using encode_map_char .strict [c]
            rw [← List.singleton_append, encode_append_ok (hfirst _) hrest]
            cases count with
            | zero => rw [List.take_zero, utf8EncodeChar_codePoint_nil hcount]; rfl
            | succ count =>
              obtain ⟨b, more, tail, rfl, rfl, hb, hmore⟩ := exists_of_followed hfound
              rw [List.take_succ_cons, List.take_left, List.drop_succ_cons, List.drop_left,
                utf8EncodeChar_codePoint hcount hb hmore, List.cons_append, List.cons_append]
          · cases h
        · split at h <;> cases h

theorem encode_decode {bytes : List UInt8} {t : Text} (h : decode bytes = .ok t) :
    encode .strict t = .ok bytes :=
  encode_of_decodeFrom h

end MarkupNaming.Utf8
