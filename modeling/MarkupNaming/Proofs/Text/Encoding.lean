import Mathlib.Data.List.Forall2
import Mathlib.Data.List.TakeWhile
import MarkupNaming.Text.Utf8

/-!
# Encoding

A text has bytes if each of its code points has some, and they stand one after the other. What a
text without surrogates is encoded as decodes to the text: each character has as many bytes as its
code point needs, so none of its forms is overlong and none is that of a surrogate.
-/
namespace MarkupNaming

/-- A list of results is had exactly if each of them is. -/
theorem mapM_eq_ok_iff {α β ε : Type} {f : α → Except ε β} {as : List α} {bs : List β} :
    as.mapM f = .ok bs ↔ List.Forall₂ (fun a b => f a = .ok b) as bs := by
  induction as generalizing bs with
  | nil => cases bs <;> simp [pure, Except.pure]
  | cons a as ih =>
    rw [List.mapM_cons, List.forall₂_cons_left_iff]
    cases hfirst : f a with
    | error fault => simp [bind, Except.bind]
    | ok b =>
      cases hrest : as.mapM f with
      | error fault => simp [bind, Except.bind, ← ih, hrest]
      | ok rest =>
        simp only [bind, Except.bind, pure, Except.pure, Except.ok.injEq, ← ih, hrest]
        exact ⟨fun h => ⟨b, rest, rfl, rfl, h.symm⟩, fun ⟨_, _, h₁, h₂, h⟩ => by rw [h, h₁, h₂]⟩

/-- A list of results is not had exactly if one of them is not. -/
theorem exists_mapM_eq_error_iff {α β ε : Type} {f : α → Except ε β} {as : List α} :
    (∃ fault, as.mapM f = .error fault) ↔ ∃ a ∈ as, ∃ fault, f a = .error fault := by
  induction as with
  | nil => simp [pure, Except.pure]
  | cons a as ih =>
    rw [List.mapM_cons, List.exists_mem_cons_iff, ← ih]
    cases f a with
    | error fault => simp [bind, Except.bind]
    | ok b => cases as.mapM f <;> simp [bind, Except.bind, pure, Except.pure]

theorem mapM_congr {α β ε : Type} {f f' : α → Except ε β} {as : List α}
    (h : ∀ a ∈ as, f' a = f a) : as.mapM f' = as.mapM f := by
  induction as with
  | nil => rfl
  | cons a as ih =>
    obtain ⟨ha, has⟩ := List.forall_mem_cons.1 h
    rw [List.mapM_cons, List.mapM_cons, ha, ih has]

namespace Utf8

/-! ## Texts by their code points -/

section Encode
variable {h : Handler} {t u : Text} {bytes more : List UInt8}

theorem encode_eq_ok_iff : encode h t = .ok bytes ↔
    (∀ c ∈ t, h.covers c = true) ∧ t.flatMap (fun c => (h.bytes? c).getD []) = bytes := by
  unfold encode
  split
  · next hnone =>
    have hall : ∀ c ∈ t, h.covers c = true := by simpa using List.findIdx?_eq_none_iff.1 hnone
    simpa using fun _ => hall
  · next hsome =>
    have hone : ¬∀ c ∈ t, h.covers c = true := by
      intro hall
      have hnone : t.findIdx? (!h.covers ·) = none :=
        List.findIdx?_eq_none_iff.2 fun c hc => by rw [hall c hc, Bool.not_true]
      cases hnone.symm.trans hsome
    simp [hone]

@[simp] theorem encode_nil (h : Handler) : encode h [] = .ok [] := encode_eq_ok_iff.2 (by simp)

theorem encode_append_ok (ht : encode h t = .ok bytes) (hu : encode h u = .ok more) :
    encode h (t ++ u) = .ok (bytes ++ more) := by
  obtain ⟨hcovers, rfl⟩ := encode_eq_ok_iff.1 ht
  obtain ⟨hcovers', rfl⟩ := encode_eq_ok_iff.1 hu
  refine encode_eq_ok_iff.2 ⟨fun c hc => ?_, List.flatMap_append⟩
  rcases List.mem_append.1 hc with hc | hc
  · exact hcovers c hc
  · exact hcovers' c hc

theorem exists_of_encode_append (htu : encode h (t ++ u) = .ok bytes) :
    ∃ front back, encode h t = .ok front ∧ encode h u = .ok back ∧ bytes = front ++ back := by
  obtain ⟨hcovers, rfl⟩ := encode_eq_ok_iff.1 htu
  exact ⟨_, _, encode_eq_ok_iff.2 ⟨fun c hc => hcovers c (List.mem_append_left _ hc), rfl⟩,
    encode_eq_ok_iff.2 ⟨fun c hc => hcovers c (List.mem_append_right _ hc), rfl⟩,
    List.flatMap_append⟩

theorem encode_map_char (h : Handler) (cs : List Char) :
    encode h (cs.map Code.char) = .ok (cs.flatMap String.utf8EncodeChar) := by
  refine encode_eq_ok_iff.2 ⟨fun c hc => ?_, ?_⟩
  · obtain ⟨d, -, rfl⟩ := List.mem_map.1 hc
    cases h <;> rfl
  · rw [List.flatMap_map]
    cases h <;> rfl

/-- A text without lone surrogates. -/
def IsEncodable (t : Text) : Prop := ∀ c ∈ t, c.isSurrogate = false

instance (t : Text) : Decidable (IsEncodable t) := inferInstanceAs (Decidable (∀ c ∈ t, _))

theorem IsEncodable.append (ht : IsEncodable t) (hu : IsEncodable u) : IsEncodable (t ++ u) :=
  List.forall_mem_append.2 ⟨ht, hu⟩

/-- Only texts without lone surrogates have bytes of their own. -/
theorem exists_encode_strict_iff : (∃ bytes, encode .strict t = .ok bytes) ↔ IsEncodable t := by
  have hcovers (c : Code) : Handler.covers .strict c = true ↔ c.isSurrogate = false := by
    cases c <;> simp [Handler.covers, Handler.bytes?, Code.isSurrogate]
  simp [encode_eq_ok_iff, IsEncodable, hcovers]

/-- A text whose lone surrogates stand for bytes, as they do in the name of a file. -/
def IsNameable (t : Text) : Prop := ∀ c ∈ t, Handler.covers .escape c = true

instance (t : Text) : Decidable (IsNameable t) := inferInstanceAs (Decidable (∀ c ∈ t, _))

theorem exists_encode_escape_iff : (∃ bytes, encode .escape t = .ok bytes) ↔ IsNameable t := by
  simp [encode_eq_ok_iff, IsNameable]

/-- A text with bytes of its own is one of characters. -/
theorem exists_of_encode_strict (ht : encode .strict t = .ok bytes) :
    ∃ cs : List Char, t = cs.map Code.char ∧ bytes = cs.flatMap String.utf8EncodeChar := by
  have hchars : ∃ cs : List Char, t = cs.map Code.char := by
    have hcovers := (encode_eq_ok_iff.1 ht).1
    clear ht
    induction t with
    | nil => exact ⟨[], rfl⟩
    | cons c t ih =>
      obtain ⟨cs, rfl⟩ := ih fun d hd => hcovers d (List.mem_cons_of_mem _ hd)
      have hc := hcovers c List.mem_cons_self
      cases c with
      | char c => exact ⟨c :: cs, rfl⟩
      | surrogate n => cases hc
  obtain ⟨cs, rfl⟩ := hchars
  rw [encode_map_char] at ht
  exact ⟨cs, rfl, (Except.ok.inj ht).symm⟩

end Encode

variable {m n : Nat} {first : UInt8}

/-! ## Bytes by their values -/

theorem followers?_ofNat (h : n < 256) : followers? (UInt8.ofNat n) =
    if n < 128 then some 0 else if 194 ≤ n ∧ n ≤ 223 then some 1
    else if 224 ≤ n ∧ n ≤ 239 then some 2 else if 240 ≤ n ∧ n ≤ 244 then some 3 else none := by
  have hbytes : ∀ n < 256, followers? (UInt8.ofNat n) =
      if n < 128 then some 0 else if 194 ≤ n ∧ n ≤ 223 then some 1
      else if 224 ≤ n ∧ n ≤ 239 then some 2 else if 240 ≤ n ∧ n ≤ 244 then some 3 else none := by
    decide +kernel
  exact hbytes n h

theorem isContinuation_ofNat (h : n < 256) :
    isContinuation (UInt8.ofNat n) = decide (128 ≤ n ∧ n ≤ 191) := by
  rw [Bool.eq_iff_iff]
  simp only [isContinuation, UInt8.le_iff_toNat_le, Bool.and_eq_true, decide_eq_true_eq,
    UInt8.toNat_ofNat_of_lt' h, UInt8.reduceToNat]

theorem canFollow_ofNat (hm : m < 256) (hn : n < 256) :
    canFollow (UInt8.ofNat m) (UInt8.ofNat n) = decide (128 ≤ n ∧ n ≤ 191 ∧
      (m = 224 → 160 ≤ n) ∧ (m = 237 → n ≤ 159) ∧ (m = 240 → 144 ≤ n) ∧ (m = 244 → n ≤ 143)) := by
  rw [Bool.eq_iff_iff]
  simp only [canFollow, isContinuation, UInt8.le_iff_toNat_le, UInt8.lt_iff_toNat_lt,
    Bool.and_eq_true, decide_eq_true_eq, Bool.not_eq_true', Bool.and_eq_false_iff,
    beq_eq_false_iff_ne, decide_eq_false_iff_not, ne_eq, ← UInt8.toNat_inj,
    UInt8.toNat_ofNat_of_lt' hm, UInt8.toNat_ofNat_of_lt' hn, UInt8.reduceToNat]
  omega

/-! ## Characters -/

section Characters
variable {b : UInt8} {more : List UInt8} {v : Nat} (offset : Nat) (rest : List UInt8)

theorem decodeFrom_one (h : v ≤ 127) : decodeFrom offset (UInt8.ofNat v :: rest) =
    (decodeFrom (offset + 0 + 1) rest).map (.char (Char.ofNat v) :: ·) := by
  have hfirst : v < 256 := by omega
  have hcount : followers? (UInt8.ofNat v) = some 0 := by
    rw [followers?_ofNat hfirst, if_pos (by omega)]
  have hvalue : codePoint (UInt8.ofNat v) [] = v := UInt8.toNat_ofNat_of_lt' hfirst
  rw [decodeFrom, hcount]
  simp only [followed, if_true, List.take_zero, List.drop_zero, hvalue]
  cases decodeFrom (offset + 0 + 1) rest <;> rfl

/-- A first byte with as many bytes behind it as it asks for is one character. -/
theorem decodeFrom_cons_cons (hcount : followers? first = some (more.length + 1))
    (hb : canFollow first b = true) (hmore : ∀ d ∈ more, isContinuation d = true)
    (hv : codePoint first (b :: more) = v) :
    decodeFrom offset (first :: b :: (more ++ rest)) =
      (decodeFrom (offset + (more.length + 1) + 1) rest).map (.char (Char.ofNat v) :: ·) := by
  have hfollowed : followed first (more.length + 1) (b :: (more ++ rest)) = more.length + 1 := by
    have hrun : more.takeWhile isContinuation = more := List.takeWhile_eq_self_iff.2 hmore
    rw [followed, if_pos hb, List.take_left, hrun, Nat.add_comm]
  rw [decodeFrom, hcount]
  simp only [hfollowed, if_true, List.take_succ_cons, List.take_left, List.drop_succ_cons,
    List.drop_left, hv]
  cases decodeFrom (offset + (more.length + 1) + 1) rest <;> rfl

theorem decodeFrom_two (h : 127 < v) (h' : v ≤ 2047) :
    decodeFrom offset (UInt8.ofNat (v / 64 % 32 + 192) :: UInt8.ofNat (v % 64 + 128) ::
        ([] ++ rest)) =
      (decodeFrom (offset + 1 + 1) rest).map (.char (Char.ofNat v) :: ·) := by
  have hfirst : v / 64 % 32 + 192 < 256 := by omega
  have hlast : v % 64 + 128 < 256 := by omega
  refine decodeFrom_cons_cons offset rest ?_ ?_ (List.forall_mem_nil _) ?_
  · rw [followers?_ofNat hfirst, if_neg (by omega), if_pos (by omega)]
    rfl
  · rw [canFollow_ofNat hfirst hlast, decide_eq_true_eq]
    omega
  · simp only [codePoint, List.length_cons, List.length_nil, List.foldl_cons, List.foldl_nil,
      UInt8.toNat_ofNat_of_lt' hfirst, UInt8.toNat_ofNat_of_lt' hlast]
    omega

theorem decodeFrom_three (h : 2047 < v) (h' : v ≤ 65535) (hsurrogate : v < 0xD800 ∨ 0xDFFF < v) :
    decodeFrom offset (UInt8.ofNat (v / 4096 % 16 + 224) :: UInt8.ofNat (v / 64 % 64 + 128) ::
        ([UInt8.ofNat (v % 64 + 128)] ++ rest)) =
      (decodeFrom (offset + 2 + 1) rest).map (.char (Char.ofNat v) :: ·) := by
  have hfirst : v / 4096 % 16 + 224 < 256 := by omega
  have hnext : v / 64 % 64 + 128 < 256 := by omega
  have hlast : v % 64 + 128 < 256 := by omega
  refine decodeFrom_cons_cons offset rest ?_ ?_ (fun d hd => ?_) ?_
  · rw [followers?_ofNat hfirst, if_neg (by omega), if_neg (by omega), if_pos (by omega)]
    rfl
  · rw [canFollow_ofNat hfirst hnext, decide_eq_true_eq]
    omega
  · rw [List.mem_singleton.1 hd, isContinuation_ofNat hlast, decide_eq_true_eq]
    omega
  · simp only [codePoint, List.length_cons, List.length_nil, List.foldl_cons, List.foldl_nil,
      UInt8.toNat_ofNat_of_lt' hfirst, UInt8.toNat_ofNat_of_lt' hnext,
      UInt8.toNat_ofNat_of_lt' hlast]
    omega

theorem decodeFrom_four (h : 65535 < v) (h' : v < 0x110000) :
    decodeFrom offset (UInt8.ofNat (v / 262144 % 8 + 240) :: UInt8.ofNat (v / 4096 % 64 + 128) ::
        ([UInt8.ofNat (v / 64 % 64 + 128), UInt8.ofNat (v % 64 + 128)] ++ rest)) =
      (decodeFrom (offset + 3 + 1) rest).map (.char (Char.ofNat v) :: ·) := by
  have hfirst : v / 262144 % 8 + 240 < 256 := by omega
  have hsecond : v / 4096 % 64 + 128 < 256 := by omega
  have hthird : v / 64 % 64 + 128 < 256 := by omega
  have hlast : v % 64 + 128 < 256 := by omega
  refine decodeFrom_cons_cons offset rest ?_ ?_ (fun d hd => ?_) ?_
  · rw [followers?_ofNat hfirst, if_neg (by omega), if_neg (by omega), if_neg (by omega),
      if_pos (by omega)]
    rfl
  · rw [canFollow_ofNat hfirst hsecond, decide_eq_true_eq]
    omega
  · rw [List.mem_cons, List.mem_singleton] at hd
    rcases hd with rfl | rfl
    · rw [isContinuation_ofNat hthird, decide_eq_true_eq]
      omega
    · rw [isContinuation_ofNat hlast, decide_eq_true_eq]
      omega
  · simp only [codePoint, List.length_cons, List.length_nil, List.foldl_cons, List.foldl_nil,
      UInt8.toNat_ofNat_of_lt' hfirst, UInt8.toNat_ofNat_of_lt' hsecond,
      UInt8.toNat_ofNat_of_lt' hthird, UInt8.toNat_ofNat_of_lt' hlast]
    omega

end Characters

theorem utf8EncodeChar_eq (c : Char) : String.utf8EncodeChar c =
    if c.toNat ≤ 127 then [UInt8.ofNat c.toNat]
    else if c.toNat ≤ 2047 then
      [UInt8.ofNat (c.toNat / 64 % 32 + 192), UInt8.ofNat (c.toNat % 64 + 128)]
    else if c.toNat ≤ 65535 then
      [UInt8.ofNat (c.toNat / 4096 % 16 + 224), UInt8.ofNat (c.toNat / 64 % 64 + 128),
        UInt8.ofNat (c.toNat % 64 + 128)]
    else
      [UInt8.ofNat (c.toNat / 262144 % 8 + 240), UInt8.ofNat (c.toNat / 4096 % 64 + 128),
        UInt8.ofNat (c.toNat / 64 % 64 + 128), UInt8.ofNat (c.toNat % 64 + 128)] := rfl

/-! ## Names of files -/

section Names
variable {t : Text} {bytes : List UInt8}

/-- The bytes of a text in which surrogates may stand for bytes, none if it has no bytes. -/
def bytesOf (t : Text) : List UInt8 := ((encode .escape t).toOption).getD []

theorem encode_escape (h : IsNameable t) :
    encode .escape t = .ok (bytesOf t) := by
  have hbytes := encode_eq_ok_iff.2 ⟨h, rfl⟩
  rw [bytesOf, hbytes]
  rfl

/-- A character whose bytes are all below 128 is the one that its only byte numbers. -/
theorem utf8EncodeChar_of_lt {c : Char} (h : ∀ b ∈ String.utf8EncodeChar c, b < 0x80) :
    String.utf8EncodeChar c = [UInt8.ofNat c.toNat] ∧ (UInt8.ofNat c.toNat).toNat = c.toNat := by
  have hhead (n : Nat) (hlow : 128 ≤ n) (hhigh : n < 256) : ¬UInt8.ofNat n < 0x80 := by
    rw [UInt8.lt_iff_toNat_lt, UInt8.toNat_ofNat_of_lt' hhigh]
    simpa using hlow
  have hascii : c.toNat ≤ 127 := by
    by_contra hlarge
    rw [utf8EncodeChar_eq, if_neg hlarge] at h
    split at h
    · exact hhead _ (by omega) (by omega) (h _ List.mem_cons_self)
    · split at h
      · exact hhead _ (by omega) (by omega) (h _ List.mem_cons_self)
      · exact hhead _ (by omega) (by omega) (h _ List.mem_cons_self)
  have hbyte : c.toNat < 256 := by omega
  rw [utf8EncodeChar_eq, if_pos hascii]
  exact ⟨rfl, UInt8.toNat_ofNat_of_lt' hbyte⟩

/-- Bytes below 128 are those of the characters that they number. -/
theorem eq_map_of_encode (ht : encode .escape t = .ok bytes) (h : ∀ b ∈ bytes, b < 0x80) :
    t = bytes.map fun b => .char (Char.ofNat b.toNat) := by
  obtain ⟨hcovers, rfl⟩ := encode_eq_ok_iff.1 ht
  clear ht
  induction t with
  | nil => rfl
  | cons c t ih =>
    obtain ⟨hc, hcovers⟩ := List.forall_mem_cons.1 hcovers
    rw [List.flatMap_cons] at h ⊢
    obtain ⟨hfirst, hrest⟩ := List.forall_mem_append.1 h
    rw [List.map_append, ← ih hcovers hrest]
    cases c with
    | char c =>
      change ∀ b ∈ String.utf8EncodeChar c, b < 0x80 at hfirst
      change _ = List.map _ (String.utf8EncodeChar c) ++ t
      obtain ⟨hbyte, hnumber⟩ := utf8EncodeChar_of_lt hfirst
      rw [hbyte, List.map_singleton, hnumber, Char.ofNat_toNat]
      rfl
    | surrogate n =>
      unfold Handler.covers Handler.bytes? at hc
      unfold Handler.bytes? at hfirst
      dsimp only at hc hfirst
      split at hc
      · next hrange =>
        rw [if_pos hrange] at hfirst
        have hbyte : UInt8.ofNat (n.val - 0x400) < 0x80 := hfirst _ List.mem_cons_self
        have hlt : n.val - 0x400 < 256 := by omega
        rw [UInt8.lt_iff_toNat_lt, UInt8.toNat_ofNat_of_lt' hlt] at hbyte
        simp only [UInt8.reduceToNat] at hbyte
        omega
      · cases hc

end Names

/-! ## Decoding -/

/-- A character is decoded from its bytes, and what follows them is decoded next. -/
theorem decodeFrom_append (c : Char) (offset : Nat) (rest : List UInt8) :
    ∃ offset', decodeFrom offset (String.utf8EncodeChar c ++ rest) =
      (decodeFrom offset' rest).map (.char c :: ·) := by
  have hbounds : c.toNat < 0xD800 ∨ (0xDFFF < c.toNat ∧ c.toNat < 0x110000) := c.valid
  have hself : Char.ofNat c.toNat = c := Char.ofNat_toNat c
  rw [utf8EncodeChar_eq]
  generalize c.toNat = v at *
  subst hself
  split
  · next hv => exact ⟨_, decodeFrom_one offset rest hv⟩
  · next hone =>
    split
    · next hv => exact ⟨_, decodeFrom_two offset rest (by omega) hv⟩
    · next htwo =>
      split
      · next hv => exact ⟨_, decodeFrom_three offset rest (by omega) hv (by omega)⟩
      · next hthree => exact ⟨_, decodeFrom_four offset rest (by omega) (by omega)⟩

theorem decodeFrom_flatMap (cs : List Char) (offset : Nat) :
    decodeFrom offset (cs.flatMap String.utf8EncodeChar) = .ok (cs.map Code.char) := by
  induction cs generalizing offset with
  | nil => rw [List.flatMap_nil, decodeFrom]; rfl
  | cons c cs ih =>
    obtain ⟨offset', h⟩ := decodeFrom_append c offset (cs.flatMap String.utf8EncodeChar)
    rw [List.flatMap_cons, h, ih]
    rfl

/-- A text is decoded from its bytes. -/
theorem decode_of_encode {t : Text} {bytes : List UInt8} (h : encode .strict t = .ok bytes) :
    decode bytes = .ok t := by
  obtain ⟨cs, rfl, rfl⟩ := exists_of_encode_strict h
  exact decodeFrom_flatMap cs 0

end Utf8
end MarkupNaming
