import MarkupNaming.Markup.Ancestry

/-!
# Character classes

How the classes of characters lie to each other, and what a change of case can give. Word
characters are no blanks. The image of a character under a change of case is the character itself
or lies in a set without blanks and marks, so a change of case neither makes a blank, a quote or a
`>` nor takes one away. No lowercase image has a lowercase image of its own, so lowercase is the
same the second time, and whether a name is void does not depend on its case.
-/
namespace MarkupNaming

namespace CharSet
variable {s : CharSet}

/-- Whether one range of the set holds all code points from `first` to `last`. -/
def includes (s : CharSet) (first last : Nat) : Bool :=
  s.ranges.any fun range => Nat.ble range.1 first && Nat.ble last range.2

theorem contains_iff {c : Code} :
    s.contains c = true ↔ ∃ range ∈ s.ranges, range.1 ≤ c.toNat ∧ c.toNat ≤ range.2 := by
  simp [contains]

theorem contains_of_includes {first last : Nat} {c : Code} (h : s.includes first last = true)
    (hfirst : first ≤ c.toNat) (hlast : c.toNat ≤ last) : s.contains c = true := by
  simp only [includes, List.any_eq_true, Bool.and_eq_true, Nat.ble_eq] at h
  obtain ⟨range, hmem, hlow, hhigh⟩ := h
  exact contains_iff.2 ⟨range, hmem, by omega, by omega⟩

theorem contains_of_subset {u : CharSet} {c : Code}
    (h : (s.ranges.all fun range => u.includes range.1 range.2) = true)
    (hc : s.contains c = true) : u.contains c = true := by
  obtain ⟨range, hmem, hlow, hhigh⟩ := contains_iff.1 hc
  exact contains_of_includes (List.all_eq_true.1 h range hmem) hlow hhigh

/-- Whether every code point of the set is that of a character. -/
def isValid (s : CharSet) : Bool :=
  s.ranges.all fun range =>
    Nat.blt range.2 0xD800 || Nat.ble 0xE000 range.1 && Nat.ble range.2 0x10FFFF

/-- A set of characters holds no surrogate. -/
theorem isSurrogate_eq_false {c : Code} (hs : s.isValid = true) (h : s.contains c = true) :
    c.isSurrogate = false := by
  cases c with
  | char c => rfl
  | surrogate n =>
    obtain ⟨range, hmem, hlow, hhigh⟩ := contains_iff.1 h
    have hrange := List.all_eq_true.1 hs range hmem
    simp only [Bool.or_eq_true, Bool.and_eq_true, Nat.blt_eq, Nat.ble_eq] at hrange
    simp only [Code.toNat_surrogate] at hlow hhigh
    omega

theorem toNat_ofNat {n : Nat} (hs : s.isValid = true) (h : s.includes n n = true) :
    (Code.ofNat n).toNat = n := by
  simp only [includes, List.any_eq_true, Bool.and_eq_true, Nat.ble_eq] at h
  obtain ⟨range, hmem, hlow, hhigh⟩ := h
  have hrange := List.all_eq_true.1 hs range hmem
  simp only [Bool.or_eq_true, Bool.and_eq_true, Nat.blt_eq, Nat.ble_eq] at hrange
  exact Code.toNat_ofNat (by omega)

theorem contains_ofNat {n : Nat} (hs : s.isValid = true) (h : s.includes n n = true) :
    s.contains (Code.ofNat n) = true := by
  have hnat := toNat_ofNat hs h
  exact contains_of_includes h (by omega) (by omega)

end CharSet

namespace Text

/-- A property of the ASCII characters may be checked code point by code point. -/
theorem forall_ascii {p : Code → Prop} (h : ∀ n < 128, p (Code.ofNat n)) {c : Code}
    (hc : c.toNat < 128) : p c := by
  simpa using h c.toNat hc

/-! ## Blanks, words and marks -/

/-- The stretches between the blanks beyond the ASCII range. -/
def blankFree : CharSet :=
  ⟨[(0xA1, 0x167F), (0x1681, 0x1FFF), (0x2060, 0x2FFF), (0x3001, 0x10FFFF)]⟩

theorem alphanumericRanges_blankFree :
    (alphanumericRanges.all fun range => blankFree.includes range.1 range.2) = true := by
  decide +kernel

theorem isBlank_eq_false_of_blankFree {c : Code} (h : blankFree.contains c = true) :
    isBlank c = false := by
  rw [CharSet.contains_iff] at h
  simp only [blankFree, List.mem_cons, List.not_mem_nil, or_false, exists_eq_or_imp,
    exists_eq_left] at h
  rw [Bool.eq_false_iff]
  simp only [isBlank, Bool.or_eq_true, Bool.and_eq_true, decide_eq_true_eq, beq_iff_eq, ne_eq]
  omega

theorem blankFree_of_isWord {c : Code} (hc : 128 ≤ c.toNat) (h : isWord c = true) :
    blankFree.contains c = true := by
  rw [isWord, if_neg (by omega), CharSet.contains_iff] at h
  obtain ⟨range, hmem, hlow, hhigh⟩ := h
  exact CharSet.contains_of_includes (List.all_eq_true.1 alphanumericRanges_blankFree range hmem)
    hlow hhigh

theorem alphanumericRanges_isValid : CharSet.isValid ⟨alphanumericRanges⟩ = true := by
  decide +kernel

/-- No word character is a surrogate. -/
theorem isSurrogate_eq_false_of_isWord {c : Code} (h : isWord c = true) :
    c.isSurrogate = false := by
  cases c with
  | char c => rfl
  | surrogate n =>
    rw [isWord, if_neg (by simp only [Code.toNat_surrogate]; omega)] at h
    exact CharSet.isSurrogate_eq_false alphanumericRanges_isValid h

/-- A character that neither parts classes nor delimits a value or a tag. -/
def isPlain (c : Code) : Bool := !isBlank c && c != '"' && c != '\'' && c != '>'

theorem isPlain_of_blankFree {c : Code} (hc : 128 ≤ c.toNat) (h : isBlank c = false) :
    isPlain c = true := by
  have hne : ∀ d : Code, d.toNat < 128 → c ≠ d := by
    rintro d hd rfl
    omega
  simp only [isPlain, h, Bool.not_false, Bool.true_and, Bool.and_eq_true, bne_iff_ne]
  exact ⟨⟨hne _ (by decide), hne _ (by decide)⟩, hne _ (by decide)⟩

theorem isPlain_of_isWord {c : Code} (h : isWord c = true) : isPlain c = true := by
  by_cases hc : c.toNat < 128
  · exact forall_ascii (p := fun c => isWord c = true → isPlain c = true) (by decide) hc h
  · exact isPlain_of_blankFree (by omega)
      (isBlank_eq_false_of_blankFree (blankFree_of_isWord (by omega) h))

theorem isWord_eq_false_of_isBlank {c : Code} (h : isBlank c = true) : isWord c = false := by
  cases hw : isWord c
  · rfl
  · have := isPlain_of_isWord hw
    simp [isPlain, h] at this

/-- The letters of the ASCII range and the stretches between the blanks beyond it. -/
def plainStretches : CharSet := ⟨(0x41, 0x5A) :: (0x61, 0x7A) :: blankFree.ranges⟩

theorem isPlain_of_plainStretches {c : Code} (h : plainStretches.contains c = true) :
    isPlain c = true := by
  by_cases hc : c.toNat < 128
  · exact forall_ascii (p := fun c => plainStretches.contains c = true → isPlain c = true)
      (by decide) hc h
  · refine isPlain_of_blankFree (by omega) (isBlank_eq_false_of_blankFree ?_)
    rw [CharSet.contains_iff] at h ⊢
    simp only [plainStretches, List.mem_cons, exists_eq_or_imp] at h
    rcases h with h | h | h
    · omega
    · omega
    · exact h

/-- The code points of the characters that are not plain. -/
def breakCodes : List Nat :=
  [9, 10, 11, 12, 13, 0x1C, 0x1D, 0x1E, 0x1F, 0x20, 0x22, 0x27, 0x3E, 0x85, 0xA0, 0x1680, 0x2000,
    0x2001, 0x2002, 0x2003, 0x2004, 0x2005, 0x2006, 0x2007, 0x2008, 0x2009, 0x200A, 0x2028, 0x2029,
    0x202F, 0x205F, 0x3000]

/-- A property of the characters that are not plain may be checked code point by code point. -/
theorem forall_not_plain {p : Code → Prop} (h : ∀ n ∈ breakCodes, p (Code.ofNat n)) {c : Code}
    (hc : isPlain c = false) : p c := by
  have hmem : c.toNat ∈ breakCodes := by
    by_cases hblank : isBlank c = true
    · simp only [isBlank, Bool.or_eq_true, Bool.and_eq_true, decide_eq_true_eq, beq_iff_eq,
        or_assoc] at hblank
      simp only [breakCodes, List.mem_cons, List.not_mem_nil, or_false]
      rcases hblank with h | h | h | h | h | h | h | h | h | h | h <;> omega
    · simp only [isPlain, hblank, Bool.not_false, Bool.true_and, Bool.and_eq_false_iff,
        bne_eq_false_iff_eq] at hc
      rcases hc with (rfl | rfl) | rfl <;> decide
  simpa using h c.toNat hmem

/-! ## Images under a change of case -/

section CaseImage
variable {s : CharSet} {runs : List CaseRun} {sequences : List (Nat × List Nat)}

theorem includes_imageOf {run : CaseRun} {n : Nat}
    (hruns : (runs.all fun run => s.includes run.image (run.image + (run.last - run.first))) = true)
    (hmem : run ∈ runs) (h : run.covers n = true) :
    s.includes (run.imageOf n) (run.imageOf n) = true := by
  have hwithin := List.all_eq_true.1 hruns run hmem
  simp only [CharSet.includes, List.any_eq_true, Bool.and_eq_true, Nat.ble_eq] at hwithin ⊢
  obtain ⟨range, hrange, hlow, hhigh⟩ := hwithin
  simp only [CaseRun.covers, Bool.and_eq_true, decide_eq_true_eq] at h
  refine ⟨range, hrange, ?_⟩
  unfold CaseRun.imageOf
  omega

/-- The images of a character are the character itself, or lie in a set around what is listed. -/
theorem eq_or_contains_of_mem_caseImage (hs : s.isValid = true)
    (hruns : (runs.all fun run => s.includes run.image (run.image + (run.last - run.first))) = true)
    (hsequences : (sequences.all fun entry => entry.2.all fun n => s.includes n n) = true)
    {c x : Code} (h : x ∈ caseImage runs sequences c) : x = c ∨ s.contains x = true := by
  unfold caseImage at h
  split at h
  · next image hfound =>
    obtain ⟨l₁, l₂, hsplit, -⟩ := List.lookup_eq_some_iff.1 hfound
    have hentry := List.all_eq_true.1 hsequences (c.toNat, image) (by rw [hsplit]; simp)
    obtain ⟨n, hn, rfl⟩ := List.mem_map.1 h
    exact .inr (CharSet.contains_ofNat hs (List.all_eq_true.1 hentry n hn))
  · split at h
    · next run hrun =>
      have hcovers : run.covers c.toNat = true := by simpa using List.find?_some hrun
      rw [List.mem_singleton.1 h]
      exact .inr (CharSet.contains_ofNat hs
        (includes_imageOf hruns (List.mem_of_find?_eq_some hrun) hcovers))
    · exact .inl (List.mem_singleton.1 h)

end CaseImage

/-! ## Lowercase -/

/-- A set around the lowercase images: no blank, no mark, no capital of the ASCII range, and not
the Kelvin sign, the one character beyond that range with an ASCII lowercase. -/
def lowercaseImages : CharSet :=
  ⟨[(0x61, 0x7A), (0xDF, 0x167F), (0x1681, 0x1FFF), (0x2060, 0x2129), (0x212B, 0x2FFF),
    (0x3001, 0xD7FF), (0xE000, 0x10FFFF)]⟩

theorem lowerRuns_lowercaseImages :
    (lowerRuns.all fun run =>
      lowercaseImages.includes run.image (run.image + (run.last - run.first))) = true := by
  decide

theorem lowercaseImages_isValid : lowercaseImages.isValid = true := by decide

/-- The lowercase of a character beyond the ASCII range: two characters for the dotted capital I,
the image under a run, or the character itself. -/
theorem lowerChar_cases {c : Code} (hc : 128 ≤ c.toNat) :
    lowerChar c = [.char 'i', Code.ofNat 0x307] ∨
      (∃ run ∈ lowerRuns, run.covers c.toNat = true ∧
        lowerChar c = [Code.ofNat (run.imageOf c.toNat)]) ∨
      lowerChar c = [c] := by
  rw [lowerChar, if_neg (by omega), caseImage]
  split
  · next image hfound =>
    simp only [lowerSequences, List.lookup_cons, List.lookup_nil] at hfound
    split at hfound
    · cases hfound
      exact .inl rfl
    · cases hfound
  · split
    · next run hrun =>
      have hinside := List.find?_some hrun
      exact .inr (.inl ⟨run, List.mem_of_find?_eq_some hrun, by simpa using hinside, rfl⟩)
    · exact .inr (.inr rfl)

/-- A lowercase image is the character itself, or lies in the set around the images. -/
theorem eq_or_lowercaseImages_of_mem_lowerChar {c x : Code} (h : x ∈ lowerChar c) :
    x = c ∨ lowercaseImages.contains x = true := by
  by_cases hc : c.toNat < 128
  · have key : c.toLower = c ∨ lowercaseImages.contains c.toLower = true :=
      forall_ascii (p := fun c => c.toLower = c ∨ lowercaseImages.contains c.toLower = true)
        (by decide) hc
    rw [lowerChar, if_pos hc, List.mem_singleton] at h
    rw [h]
    exact key
  · rw [lowerChar, if_neg hc] at h
    exact eq_or_contains_of_mem_caseImage lowercaseImages_isValid lowerRuns_lowercaseImages
      (by decide) h

theorem isPlain_of_lowercaseImages {c : Code} (h : lowercaseImages.contains c = true) :
    isPlain c = true :=
  isPlain_of_plainStretches (CharSet.contains_of_subset (by decide) h)

theorem isPlain_of_mem_lowerChar {c x : Code} (hc : isPlain c = true) (hx : x ∈ lowerChar c) :
    isPlain x = true := by
  rcases eq_or_lowercaseImages_of_mem_lowerChar hx with rfl | h
  · exact hc
  · exact isPlain_of_lowercaseImages h

/-- The lowercase of a text is made of the lowercase of its characters and of final sigmas. -/
theorem mem_lowerChar_of_mem_lowerAfter {x : Code} {before t : Text}
    (h : x ∈ lowerAfter before t) : (∃ c ∈ t, x ∈ lowerChar c) ∨ x = 'ς' := by
  induction t generalizing before with
  | nil => cases h
  | cons c rest ih =>
      rw [lowerAfter, List.mem_append] at h
      rcases h with h | h
      · by_cases hc : c = 'Σ'
        · subst hc
          rw [if_pos rfl] at h
          split at h
          · exact .inr (List.mem_singleton.1 h)
          · rw [List.mem_singleton] at h
            exact .inl ⟨'Σ', List.mem_cons_self, by rw [h]; decide⟩
        · rw [if_neg hc] at h
          exact .inl ⟨c, List.mem_cons_self, h⟩
      · rcases ih h with ⟨d, hd, hx⟩ | hx
        · exact .inl ⟨d, List.mem_cons_of_mem _ hd, hx⟩
        · exact .inr hx

theorem isPlain_of_mem_lower {t : Text} (ht : ∀ c ∈ t, isPlain c = true) {x : Code}
    (hx : x ∈ lower t) : isPlain x = true := by
  rcases mem_lowerChar_of_mem_lowerAfter hx with ⟨c, hc, hx⟩ | rfl
  · exact isPlain_of_mem_lowerChar (ht c hc) hx
  · decide

/-- Lowercase makes no surrogates. -/
theorem isSurrogate_eq_false_of_mem_lower {t : Text} (ht : ∀ c ∈ t, c.isSurrogate = false)
    {x : Code} (hx : x ∈ lower t) : x.isSurrogate = false := by
  rcases mem_lowerChar_of_mem_lowerAfter hx with ⟨c, hc, hx⟩ | rfl
  · rcases eq_or_lowercaseImages_of_mem_lowerChar hx with rfl | h
    · exact ht x hc
    · exact CharSet.isSurrogate_eq_false lowercaseImages_isValid h
  · rfl

theorem lowerChar_ne_nil (c : Code) : lowerChar c ≠ [] := by
  by_cases hc : c.toNat < 128
  · rw [lowerChar, if_pos hc]
    exact List.cons_ne_nil _ _
  · rcases lowerChar_cases (c := c) (by omega) with heq | ⟨run, -, -, heq⟩ | heq <;>
    · rw [heq]
      exact List.cons_ne_nil _ _

theorem lower_ne_nil {t : Text} (h : t ≠ []) : lower t ≠ [] := by
  obtain ⟨c, rest, rfl⟩ := List.exists_cons_of_ne_nil h
  rw [lower, lowerAfter]
  split
  · split <;> exact List.cons_ne_nil _ _
  · simp [lowerChar_ne_nil]

/-- How many characters the lowercase of a text has does not depend on its place. -/
theorem length_lowerAfter (before t : Text) :
    (lowerAfter before t).length = (t.flatMap lowerChar).length := by
  induction t generalizing before with
  | nil => rfl
  | cons c rest ih =>
    have hc : (if c = 'Σ' then
        (if startsCased before && !startsCased rest then [.char 'ς'] else [.char 'σ'] : Text)
        else lowerChar c).length = (lowerChar c).length := by
      split
      · next hsigma =>
        have hlength : (lowerChar 'Σ').length = 1 := by rfl
        subst hsigma
        rw [hlength]
        split <;> rfl
      · rfl
    rw [lowerAfter, List.length_append, hc, ih, List.flatMap_cons, List.length_append]

/-- A text whose lowercase is that of its own end is that end. -/
theorem eq_nil_of_lower_append {t u : Text} (h : lower (t ++ u) = lower u) : t = [] := by
  have hlength := congrArg List.length h
  simp only [lower, length_lowerAfter, List.flatMap_append, List.length_append] at hlength
  have hnil : lower t = [] := List.length_eq_zero_iff.1 (by rw [lower, length_lowerAfter]; omega)
  exact Classical.not_not.1 fun ht => lower_ne_nil ht hnil

/-- What is no lowercase image is not made by a change to lowercase. -/
theorem mem_of_mem_lower_of_not_image {t : Text} {x : Code}
    (himage : lowercaseImages.contains x = false) (hx : x ∈ lower t) : x ∈ t := by
  rcases mem_lowerChar_of_mem_lowerAfter hx with ⟨c, hc, hx⟩ | rfl
  · rcases eq_or_lowercaseImages_of_mem_lowerChar hx with rfl | h
    · exact hc
    · rw [himage] at h
      cases h
  · exact absurd himage (by decide)

/-- Lowercase adds no blanks, no quotes and no `>`. -/
theorem mem_of_mem_lower {t : Text} {x : Code} (hplain : isPlain x = false) (hx : x ∈ lower t) :
    x ∈ t := by
  refine mem_of_mem_lower_of_not_image ?_ hx
  cases himage : lowercaseImages.contains x with
  | false => rfl
  | true =>
    rw [isPlain_of_lowercaseImages himage] at hplain
    cases hplain

/-! ## The lowercase of lowercase -/

end Text

/-- Whether the images of a run are all outside of another one: the two lie apart, or the images
alternate with the code points of the other run. -/
def Text.CaseRun.misses (r s : CaseRun) : Bool :=
  Nat.blt (r.image + (r.last - r.first)) s.first || Nat.blt s.last r.image ||
    Nat.beq s.stride 2 && (Nat.beq r.stride 2 || Nat.beq r.first r.last) &&
      Nat.beq ((r.image + s.first) % 2) 1

namespace Text

theorem lowerRuns_misses :
    (lowerRuns.all fun r => r.misses ⟨0x130, 0x130, 1, 0x69⟩ && lowerRuns.all r.misses) = true := by
  decide +kernel

theorem not_covers_imageOf {r s : CaseRun} {n : Nat} (h : r.misses s = true)
    (hn : r.covers n = true) : ¬ s.covers (r.imageOf n) = true := by
  simp only [CaseRun.misses, Bool.or_eq_true, Bool.and_eq_true, Nat.blt_eq, Nat.beq_eq] at h
  simp only [CaseRun.covers, Bool.and_eq_true, decide_eq_true_eq, beq_iff_eq] at hn ⊢
  unfold CaseRun.imageOf
  obtain ⟨⟨hfirst, hlast⟩, hstride⟩ := hn
  rintro ⟨⟨hlow, hhigh⟩, hmod⟩
  rcases h with (h | h) | ⟨⟨hs, hr⟩, hodd⟩
  · omega
  · omega
  · rw [hs] at hmod
    have heven : (n - r.first) % 2 = 0 := by
      rcases hr with hr | hr
      · rwa [hr] at hstride
      · omega
    omega

/-- The image of a character under a run is its own lowercase. -/
theorem lowerChar_imageOf {run : CaseRun} {n : Nat} (hrun : run ∈ lowerRuns)
    (hn : run.covers n = true) :
    lowerChar (Code.ofNat (run.imageOf n)) = [Code.ofNat (run.imageOf n)] := by
  have hincludes := includes_imageOf lowerRuns_lowercaseImages hrun hn
  have himage := CharSet.contains_ofNat lowercaseImages_isValid hincludes
  have hcode := CharSet.toNat_ofNat lowercaseImages_isValid hincludes
  have hmisses := List.all_eq_true.1 lowerRuns_misses run hrun
  rw [Bool.and_eq_true, List.all_eq_true] at hmisses
  by_cases hc : (Code.ofNat (run.imageOf n)).toNat < 128
  · exact forall_ascii (p := fun c => lowercaseImages.contains c = true → lowerChar c = [c])
      (by decide) hc himage
  · have hsequence : lowerSequences.lookup (run.imageOf n) = none := by
      have hne : run.imageOf n ≠ 0x130 := by
        intro heq
        apply not_covers_imageOf hmisses.1 hn
        rw [heq]
        decide
      simp [lowerSequences, hne]
    have hnone : lowerRuns.find? (·.covers (run.imageOf n)) = none := by
      rw [List.find?_eq_none]
      intro s hs
      exact not_covers_imageOf (hmisses.2 s hs) hn
    rw [lowerChar, if_neg hc, caseImage, hcode, hsequence, hnone]

/-- A lowercase image is its own lowercase. -/
theorem lowerChar_of_mem_lowerChar {c d : Code} (h : c ∈ lowerChar d) : lowerChar c = [c] := by
  by_cases hd : d.toNat < 128
  · have key : lowerChar d.toLower = [d.toLower] :=
      forall_ascii (p := fun d => lowerChar d.toLower = [d.toLower]) (by decide) hd
    rw [lowerChar, if_pos hd, List.mem_singleton] at h
    rw [h, key]
  · rcases lowerChar_cases (c := d) (by omega) with heq | ⟨run, hrun, hcovers, heq⟩ | heq
    · rw [heq, List.mem_cons, List.mem_singleton] at h
      rcases h with rfl | rfl <;> rfl
    · rw [heq, List.mem_singleton] at h
      rw [h, lowerChar_imageOf hrun hcovers]
    · rw [heq, List.mem_singleton] at h
      rw [h, heq]

/-- A text whose characters all are their own lowercase, with no capital sigma among them. -/
theorem lowerAfter_eq_self {before t : Text}
    (h : ∀ c ∈ t, c ≠ 'Σ' ∧ lowerChar c = [c]) : lowerAfter before t = t := by
  induction t generalizing before with
  | nil => rfl
  | cons c rest ih =>
      have hc := h c List.mem_cons_self
      rw [lowerAfter, if_neg hc.1, hc.2, ih fun d hd => h d (List.mem_cons_of_mem _ hd)]
      rfl

theorem mem_lowerAfter_of_mem_lowerChar {before t : Text} {c x : Code} (hc : c ∈ t)
    (hsigma : c ≠ 'Σ') (hx : x ∈ lowerChar c) : x ∈ lowerAfter before t := by
  induction t generalizing before with
  | nil => cases hc
  | cons d rest ih =>
      rw [lowerAfter, List.mem_append]
      rcases List.mem_cons.1 hc with rfl | hc
      · rw [if_neg hsigma]
        exact .inl hx
      · exact .inr (ih hc)

/-- Every character of a lowercase text is its own lowercase. -/
theorem lowerChar_of_mem_lower {t : Text} {c : Code} (h : c ∈ lower t) :
    c ≠ 'Σ' ∧ lowerChar c = [c] := by
  have hself : lowerChar c = [c] := by
    rcases mem_lowerChar_of_mem_lowerAfter h with ⟨d, -, hd⟩ | rfl
    · exact lowerChar_of_mem_lowerChar hd
    · rfl
  refine ⟨?_, hself⟩
  rintro rfl
  exact absurd hself (by decide)

/-- What is made of characters of a lowercase text is its own lowercase. -/
theorem lower_eq_self_of_subset {t u : Text} (h : u ⊆ lower t) : lower u = u :=
  lowerAfter_eq_self fun _ hc => lowerChar_of_mem_lower (h hc)

@[simp] theorem lower_lower (t : Text) : lower (lower t) = lower t :=
  lower_eq_self_of_subset (List.Subset.refl _)

/-! ## Uppercase -/

/-- A set around the uppercase images: no blank and no mark. -/
def uppercaseImages : CharSet :=
  ⟨[(0x41, 0x5A), (0xA1, 0x167F), (0x1681, 0x1FFF), (0x2060, 0x2FFF), (0x3001, 0xD7FF),
    (0xE000, 0x10FFFF)]⟩

theorem upperRuns_uppercaseImages :
    (upperRuns.all fun run =>
      uppercaseImages.includes run.image (run.image + (run.last - run.first))) = true := by
  decide

theorem upperSequences_uppercaseImages :
    (upperSequences.all fun entry => entry.2.all fun n => uppercaseImages.includes n n) = true := by
  decide

theorem eq_or_uppercaseImages_of_mem_upperChar {c x : Code} (h : x ∈ upperChar c) :
    x = c ∨ uppercaseImages.contains x = true := by
  by_cases hc : c.toNat < 128
  · have key : c.toUpper = c ∨ uppercaseImages.contains c.toUpper = true :=
      forall_ascii (p := fun c => c.toUpper = c ∨ uppercaseImages.contains c.toUpper = true)
        (by decide) hc
    rw [upperChar, if_pos hc, List.mem_singleton] at h
    rw [h]
    exact key
  · rw [upperChar, if_neg hc] at h
    exact eq_or_contains_of_mem_caseImage (by decide) upperRuns_uppercaseImages
      upperSequences_uppercaseImages h

/-! ## Characters without case -/

/-- A character that is not plain has no case. -/
theorem case_of_not_plain {x : Code} (h : isPlain x = false) :
    lowerChar x = [x] ∧ upperChar x = [x] ∧ x ≠ 'Σ' :=
  forall_not_plain (p := fun x => lowerChar x = [x] ∧ upperChar x = [x] ∧ x ≠ 'Σ')
    (by decide) h

/-- Lowercase neither makes a blank, a quote or a `>` nor takes one away. -/
theorem mem_lower_iff {t : Text} {x : Code} (h : isPlain x = false) : x ∈ lower t ↔ x ∈ t := by
  obtain ⟨hlower, -, hsigma⟩ := case_of_not_plain h
  exact ⟨mem_of_mem_lower h,
    fun hx => mem_lowerAfter_of_mem_lowerChar hx hsigma (by rw [hlower]; simp)⟩

/-- Uppercase neither makes a blank, a quote or a `>` nor takes one away. -/
theorem mem_upper_iff {t : Text} {x : Code} (h : isPlain x = false) : x ∈ upper t ↔ x ∈ t := by
  rw [upper, List.mem_flatMap]
  constructor
  · rintro ⟨c, hc, hx⟩
    rcases eq_or_uppercaseImages_of_mem_upperChar hx with rfl | himage
    · exact hc
    · rw [isPlain_of_plainStretches (CharSet.contains_of_subset (by decide) himage)] at h
      cases h
  · intro hx
    exact ⟨x, hx, by rw [(case_of_not_plain h).2.1]; simp⟩

end Text

namespace Markup
open Text

/-- Whether a name is void does not depend on its case. -/
theorem isVoid_lower (name : Text) : isVoid (lower name) = isVoid name := by
  simp [isVoid]

end Markup
end MarkupNaming
