import MarkupNaming.Proofs.Yaml.Scalar.Literal
import MarkupNaming.Proofs.Yaml.Scalar.Quoted
import MarkupNaming.Proofs.Yaml.Settling

/-!
# Reading tokens

What one step of a reading takes of a text: a key with its colon, a scalar up to the next line, a
dash or the brackets of an empty list. At the end of the text the outermost block is closed.
-/
namespace MarkupNaming.Yaml
open Text Written

namespace Reading
variable {r s next : Reading} {t : Text} {k : Nat}

/-! ## Steps -/

section Steps
variable {c : Code}

theorem step_end (hs : s.settle = .ok s) (h : s.source.rest = []) : s.step = s.finish := by
  obtain ⟨kept, hkept, hunwind⟩ := settle_eq_ok_iff.1 hs
  unfold step
  rw [hkept]
  simp only [bind, Except.bind, hunwind, h]

theorem step_dash (hs : s.settle = .ok s) (h : s.source.rest = .char '-' :: .char ' ' :: t) :
    s.step = s.readBlockEntry := by
  obtain ⟨kept, hkept, hunwind⟩ := settle_eq_ok_iff.1 hs
  have hseparator : s.source.atSeparator = false := by
    rw [Source.atSeparator, h]
    rfl
  unfold step
  rw [hkept]
  simp only [bind, Except.bind, hunwind, h]
  simp [hseparator, atGap, isGap]

theorem step_colon (hs : s.settle = .ok s) (h : s.source.rest = .char ':' :: t)
    (ht : atGap t = true) :
    s.step = s.readValue := by
  obtain ⟨kept, hkept, hunwind⟩ := settle_eq_ok_iff.1 hs
  unfold step
  rw [hkept]
  simp only [bind, Except.bind, hunwind, h]
  simp [ht]

theorem step_opening (hs : s.settle = .ok s) (h : s.source.rest = .char '[' :: t) :
    s.step = s.openFlow .flowSequenceStart := by
  obtain ⟨kept, hkept, hunwind⟩ := settle_eq_ok_iff.1 hs
  unfold step
  rw [hkept]
  simp only [bind, Except.bind, hunwind, h]
  simp

theorem step_closing (hs : s.settle = .ok s) (h : s.source.rest = .char ']' :: t) :
    s.step = s.closeFlow .flowSequenceEnd := by
  obtain ⟨kept, hkept, hunwind⟩ := settle_eq_ok_iff.1 hs
  unfold step
  rw [hkept]
  simp only [bind, Except.bind, hunwind, h]
  simp

theorem step_quoted (hs : s.settle = .ok s) (hc : c = '\'' ∨ c = '"') (h : s.source.rest = c :: t) :
    s.step = s.readProperty fun s => do
      let (text, s) ← readQuoted c s
      return (.scalar text false, s) := by
  obtain ⟨kept, hkept, hunwind⟩ := settle_eq_ok_iff.1 hs
  unfold step
  rw [hkept]
  simp only [bind, Except.bind, hunwind, h]
  rcases hc with rfl | rfl <;> simp

/-- Whether a text starts like a scalar without quotes. -/
def StartsPlain (t : Text) : Prop := ∃ c rest, t = c :: rest ∧
  (startsPlain c = true ∨ (atGap rest = false ∧ (c = '-' ∨ c = '?' ∨ c = ':')))

theorem startsPlain_iff : startsPlain c = true ↔ isGap c = false ∧
    c ∉ ("-?:,[]#&*!|>'\"%@`" : Text) ∧ c ≠ '\x7b' ∧ c ≠ '\x7d' := by
  simp only [startsPlain, Bool.and_eq_true, Bool.not_eq_true', bne_iff_ne, and_assoc,
    Bool.eq_false_iff, ne_eq, List.contains_iff_mem]

theorem step_plain (hs : s.settle = .ok s) (hlevel : s.level = 0) (h : StartsPlain s.source.rest)
    (hseparator : s.source.column = 0 → s.source.atSeparator = false) :
    s.step = s.readPlainScalar := by
  obtain ⟨kept, hkept, hunwind⟩ := settle_eq_ok_iff.1 hs
  obtain ⟨c, rest, hrest, hc⟩ := h
  have hflow : s.inFlow = false := by simp [inFlow, hlevel]
  have hmark (next : Except Fault Reading) : s.source.column = 0 → s.source.atSeparator = true →
      next = s.readPlainScalar := fun hcolumn hmarked => by simp [hseparator hcolumn] at hmarked
  unfold step
  rw [hkept]
  simp only [bind, Except.bind, hunwind, hrest, hflow]
  rcases hc with hc | ⟨hgap, rfl | rfl | rfl⟩
  · have hne := (startsPlain_iff.1 hc).2
    simp at hne
    simpa [hne, hc] using fun _ => hmark _
  · simpa [hgap] using hmark _
  · simp [hgap]
  · simp [hgap]

end Steps

/-! ## Keys -/

/-- The possible key that starts here. -/
def possibleKey (r : Reading) : PossibleKey where
  toMark := r.source.toMark
  level := r.level
  number := r.tokens.length
  isRequired := !r.inFlow && r.indent == r.source.column

theorem saveKey_of_allowed (hkeys : r.keys = []) (h : r.keyAllowed = true) :
    r.saveKey = .ok { r with keys := [r.possibleKey] } := by
  rw [saveKey, if_pos h, dropKey, dropKeys_of_keys _ hkeys]
  simp only [bind, Except.bind, hkeys]
  rfl

theorem saveKey_of_not_allowed (h : r.keyAllowed = false) : r.saveKey = .ok r := by
  rw [saveKey, if_neg (by simp [h])]

/-- A short word that starts like a scalar without quotes whatever follows it. -/
structure IsSimpleWord (w : Text) : Prop where
  word : IsPlainWord w
  starts : ∀ c ∈ w.head?, startsPlain c = true ∧ c ≠ '.'
  short : w.length ≤ 1024

/-- ASCII letters and digits. -/
def isAlphanumeric (c : Code) : Bool := isAsciiLetter c || isAsciiDigit c

/-- ASCII letters and digits start a scalar and are no gaps. -/
theorem startsPlain_of_isAlphanumeric {c : Code} (h : isAlphanumeric c = true) :
    startsPlain c = true := by
  have hmarks : ("-?:,[]#&*!|>'\"%@`" : Text).all (!isAlphanumeric ·) = true := by decide
  refine startsPlain_iff.2 ⟨?_, fun hc => ?_, ?_, ?_⟩
  · refine Bool.eq_false_iff.2 fun hgap => ?_
    simp only [isGap, isBreak, Bool.or_eq_true, beq_iff_eq] at hgap
    rcases hgap with (rfl | rfl) | (((rfl | rfl) | rfl) | rfl) | rfl <;>
      exact absurd h (by decide)
  · have hmark := List.all_eq_true.1 hmarks c hc
    rw [h] at hmark
    cases hmark
  · rintro rfl
    exact absurd h (by decide)
  · rintro rfl
    exact absurd h (by decide)

/-- A short word of ASCII letters and digits is a simple one. -/
theorem isSimpleWord_of_isAlphanumeric {w : Text} (hne : w ≠ [])
    (hword : w.all isAlphanumeric = true) (hshort : w.length ≤ 1024) : IsSimpleWord w := by
  have hall := List.all_eq_true.1 hword
  have hother {c : Code} (hc : isAlphanumeric c = false) : c ∉ w := fun hmem => by
    rw [hall c hmem] at hc
    cases hc
  refine ⟨⟨hne, fun c hc => ⟨(startsPlain_iff.1 (startsPlain_of_isAlphanumeric (hall c hc))).1, ?_⟩,
    fun h => ?_, fun h => ?_⟩, fun c hc => ⟨startsPlain_of_isAlphanumeric (hall c ?_), ?_⟩, hshort⟩
  · rintro rfl
    exact hother (by decide) hc
  · exact hother (by decide) (List.mem_of_head? h)
  · exact hother (by decide) (List.mem_of_getLast? h)
  · exact List.mem_of_head? hc
  · rintro rfl
    exact hother (by decide) (List.mem_of_head? hc)

section Keys
variable {w : Text} {tokens : List Token} {outer : List Int} {top : Int} {column : Nat}

theorem IsSimpleWord.startsPlain (hw : IsSimpleWord w) : StartsPlain (w ++ t) := by
  obtain ⟨c, w, rfl⟩ := List.exists_cons_of_ne_nil hw.word.ne_nil
  exact ⟨c, w ++ t, rfl, .inl (hw.starts c rfl).1⟩

theorem IsSimpleWord.startsLine (hw : IsSimpleWord w) : StartsLine (w ++ t) := by
  intro d hd
  obtain ⟨c, w, rfl⟩ := List.exists_cons_of_ne_nil hw.word.ne_nil
  obtain rfl : c = d := by simpa using hd
  obtain ⟨hstarts, hdot⟩ := hw.starts c rfl
  refine ⟨(hw.word.inline c List.mem_cons_self).1, ?_, hdot, ?_⟩
  · rintro rfl
    exact absurd hstarts (by decide)
  · rintro rfl
    exact absurd hstarts (by decide)

/-- The reading behind a word that may be a key. -/
def behindWord (r : Reading) (w : Text) : Reading :=
  { r with
    source := r.source.skip w.length
    tokens := ⟨.scalar w true, r.source.toMark⟩ :: r.tokens
    keyAllowed := false
    keys := [r.possibleKey] }

theorem Stands.step_word (hs : s.Stands true tokens (top :: outer) column (w ++ .char ':' :: t))
    (hw : IsSimpleWord w) (htop : top ≤ column) (ht : atGap t = true) :
    s.step = .ok (s.behindWord w) := by
  have hsettle := hs.settle (startsToken_of_startsLine hw.startsLine) htop
  have hseparator : s.source.atSeparator = false :=
    atSeparator_of_startsLine (k := 0) hs.rest fun _ => hw.startsLine
  have hread := readPlain_key (m := (s.indent + 1).toNat) hw.word hs.rest ht
  have hflow : inFlow { s with keys := [s.possibleKey] } = false := by simp [inFlow, hs.level]
  rw [step_plain hsettle hs.level (hs.rest ▸ hw.startsPlain) fun _ => hseparator, readPlainScalar,
    saveKey_of_allowed hs.keys hs.keyAllowed]
  simp only [bind, Except.bind, hflow, hread]
  rfl

theorem insert_eq {key : PossibleKey} (behind front : List Lexeme) (h : r.tokens = behind ++ front)
    (hnumber : key.number = front.length) (x : Token) :
    r.insert key x = { r with tokens := behind ++ ⟨x, key.toMark⟩ :: front } := by
  have hbehind : r.tokens.length - key.number = behind.length := by
    rw [h, hnumber, List.length_append]
    omega
  simp only [insert, hbehind]
  rw [h, List.take_left, List.drop_left]

/-- A colon behind a possible key, with the token of the key as the last one. -/
theorem step_value {key : PossibleKey} {x : Lexeme} {front : List Lexeme} (hs : s.settle = .ok s)
    (h : s.source.rest = .char ':' :: t) (ht : atGap t = true) (hlevel : s.level = 0)
    (hkeys : s.keys = [key]) (hkey : key.level = 0) (htokens : s.tokens = x :: front)
    (hnumber : key.number = front.length) :
    s.step = .ok { s with
      source := s.source.next
      tokens := ⟨.value, s.source.toMark⟩ :: x :: ⟨.key, key.toMark⟩ ::
        if s.indent < key.column then ⟨.blockMappingStart, key.toMark⟩ :: front else front
      indent := if s.indent < key.column then key.column else s.indent
      outer := if s.indent < key.column then s.indent :: s.outer else s.outer
      keyAllowed := false
      keys := [] } := by
  have hfind : s.keys.find? (·.level == s.level) = some key := by simp [hkeys, hkey, hlevel]
  have hrest : s.keys.filter (·.level != s.level) = [] := by simp [hkeys, hkey, hlevel]
  have hinsert : insert { s with keys := [] } key .key =
      { s with keys := [], tokens := x :: ⟨.key, key.toMark⟩ :: front } :=
    insert_eq (r := { s with keys := [] }) [x] front htokens hnumber .key
  have hflow : inFlow { s with keys := [], tokens := x :: ⟨.key, key.toMark⟩ :: front } = false :=
    by simp [inFlow, hlevel]
  rw [step_colon hs h ht, readValue, hfind]
  simp only [hrest, hinsert, hflow, indentTo]
  by_cases hopen : s.indent < key.column
  · simp only [if_pos hopen]
    rw [insert_eq [x, ⟨.key, key.toMark⟩] front rfl hnumber]
    rfl
  · simp only [if_neg hopen]
    rfl

/-- A word on its line is still a possible key, and the colon behind it is the next token. -/
theorem Stands.settle_behindWord (hs : s.Stands true tokens (top :: outer) column (w ++
    .char ':' :: t))
    (hw : IsSimpleWord w) (htop : top ≤ column) :
    (s.behindWord w).dropStale = .ok (s.behindWord w) ∧
      (s.behindWord w).settle = .ok (s.behindWord w) := by
  have hskip := Source.skip_inline hs.rest hw.word.isInline
  have hrest : (s.behindWord w).source.rest = .char ':' :: t := by rw [behindWord, hskip]
  have hfresh : (s.behindWord w).isStale s.possibleKey = false := by
    simpa [isStale, behindWord, hskip, possibleKey] using hw.short
  have hkept : (s.behindWord w).dropStale = .ok (s.behindWord w) := by
    refine dropStale_of_fresh fun key hkey => ?_
    obtain rfl : key = s.possibleKey := List.mem_singleton.1 hkey
    exact hfresh
  have hindent : (s.behindWord w).indent = top := hs.indent
  have hcolumn : (s.behindWord w).source.column = column + w.length := by
    rw [behindWord, hskip, ← hs.column]
  exact ⟨hkept, settle_eq_self hkept hrest (startsToken_cons (by decide) t)
    (by rw [hindent, hcolumn]; omega)⟩

/-- A key and its colon. -/
theorem Stands.exists_runs_key (hs : s.Stands true tokens (top :: outer) column (w ++
    .char ':' :: t))
    (hw : IsSimpleWord w) (htop : top ≤ column) (ht : atGap t = true) :
    ∃ next, s.Runs next ∧
      next.Stands false
        (tokens ++ (if top < column then [.blockMappingStart] else []) ++
          [.key, .scalar w true, .value])
        (if top < column then (column : Int) :: top :: outer else top :: outer)
        (column + w.length + 1) t := by
  have hskip := Source.skip_inline hs.rest hw.word.isInline
  have hrest : (s.behindWord w).source.rest = .char ':' :: t := by rw [behindWord, hskip]
  obtain ⟨hkept, hsettle⟩ := hs.settle_behindWord hw htop
  have hvalue := step_value hsettle hrest ht hs.level rfl hs.level rfl rfl
  have hcolumn : s.possibleKey.column = column := hs.column
  have hindent : (s.behindWord w).indent = top := hs.indent
  have houter : (s.behindWord w).outer = outer := (List.cons.inj hs.stack).2
  rw [hcolumn, hindent, houter] at hvalue
  have hlength := List.length_pos_iff.2 hw.word.ne_nil
  have hlt : (s.behindWord w).source.rest.length < s.source.rest.length := by
    rw [hrest, hs.rest, List.length_append]
    omega
  refine ⟨_, .trans (runs_of_step (hs.step_word hw htop ht) hs.isDone hkept hlt)
    (runs_of_step hvalue hs.isDone (dropKeys_of_keys _ rfl) ?_), ?_⟩
  · rw [Source.rest_next, hrest]
    simp
  · have hnext : (s.behindWord w).source.next =
        ⟨⟨s.source.index + w.length + 1, s.source.line, s.source.column + w.length + 1⟩, t⟩ := by
      rw [Source.next_of_inline hrest (by decide), behindWord, hskip]
      rfl
    refine ⟨by rw [hnext], by rw [hnext, hs.column], hs.level, rfl, rfl, hs.isDone, ?_, ?_⟩
    · dsimp only
      split <;> rfl
    · rw [← hs.tokens]
      split <;> simp

theorem Before.exists_runs_key (h : r.Before tokens (top :: outer) column (w ++ .char ':' :: t))
    (hw : IsSimpleWord w) (htop : top ≤ column) (ht : atGap t = true) :
    ∃ next, r.Runs next ∧
      next.Stands false
        (tokens ++ (if top < column then [.blockMappingStart] else []) ++
          [.key, .scalar w true, .value])
        (if top < column then (column : Int) :: top :: outer else top :: outer)
        (column + w.length + 1) t :=
  h.exists_runs htop (startsToken_of_startsLine hw.startsLine) fun _ hs =>
    hs.exists_runs_key hw htop ht

end Keys

/-! ## Scalars -/

section Scalars
variable {allowed broken isPlain : Bool} {tokens : List Token} {outer : List Int}
  {top column n : Nat} {x : Text} {c : Code}

theorem exists_saveKey (hkeys : s.keys = []) :
    ∃ keys ⊆ [s.possibleKey], s.saveKey = .ok { s with keys := keys } := by
  rcases Bool.eq_false_or_eq_true s.keyAllowed with h | h
  · exact ⟨_, List.Subset.refl _, saveKey_of_allowed hkeys h⟩
  · exact ⟨[], List.nil_subset _, by rw [saveKey_of_not_allowed h, ← hkeys]⟩

/-- The reading behind a scalar, with what it may have remembered as a key. -/
def behindScalar (r : Reading) (x : Text) (isPlain broken : Bool) (n : Nat)
    (keys : List PossibleKey) : Reading :=
  { r with
    source := r.source.skip n
    tokens := ⟨.scalar x isPlain, r.source.toMark⟩ :: r.tokens
    keyAllowed := broken
    keys := keys }

theorem exists_step_quoted (hs : s.settle = .ok s) (hc : c = '\'' ∨ c = '"')
    (h : s.source.rest = c :: t) (hkeys : s.keys = [])
    (hread : readQuoted c s.source = .ok (x, s.source.skip n)) :
    ∃ keys ⊆ [s.possibleKey], s.step = .ok (s.behindScalar x false false n keys) := by
  obtain ⟨keys, hsub, hsave⟩ := exists_saveKey hkeys
  refine ⟨keys, hsub, ?_⟩
  rw [step_quoted hs hc h, readProperty, hsave]
  simp only [bind, Except.bind, hread]
  rfl

theorem exists_step_plain (hs : s.settle = .ok s) (hlevel : s.level = 0)
    (h : StartsPlain s.source.rest) (hcolumn : s.source.column ≠ 0) (hkeys : s.keys = [])
    (hread : readPlain false (s.indent + 1).toNat s.source = (x, s.source.skip n, broken)) :
    ∃ keys ⊆ [s.possibleKey], s.step = .ok (s.behindScalar x true broken n keys) := by
  obtain ⟨keys, hsub, hsave⟩ := exists_saveKey hkeys
  refine ⟨keys, hsub, ?_⟩
  have hflow : inFlow { s with keys := keys } = false := by simp [inFlow, hlevel]
  rw [step_plain hs hlevel h fun h => absurd h hcolumn, readPlainScalar, hsave]
  simp only [bind, Except.bind, hflow, hread]
  rfl

/-- Behind a scalar that is indented more than the blocks around it nothing is left of the key
that it might have been once its line ends. -/
theorem Stands.exists_runs_behindScalar {keys : List PossibleKey}
    (hs : s.Stands allowed tokens (top :: outer) column t) (htop : top < column)
    (hkeys : keys ⊆ [s.possibleKey]) (hpos : 0 < n) (hn : n ≤ t.length)
    (hstep : s.step = .ok (s.behindScalar x isPlain broken n keys)) :
    ∃ next, s.Runs next ∧ next.Carries (tokens ++ [.scalar x isPlain]) (top :: outer) ∧
      next.source = s.source.skip n ∧ next.keyAllowed = broken ∧
        ∀ key ∈ next.keys, key.line = s.source.line := by
  have hkey : ∀ key ∈ keys, key = s.possibleKey := fun key h => List.mem_singleton.1 (hkeys h)
  have hrequired : s.possibleKey.isRequired = false := by
    have hindent : s.indent ≠ s.source.column := by
      rw [hs.indent, hs.column]
      omega
    simp [possibleKey, hindent]
  obtain ⟨kept, hsub, hkept⟩ := exists_dropStale (r := s.behindScalar x isPlain broken n keys)
    fun key h => hkey key h ▸ hrequired
  refine ⟨_, runs_of_step hstep hs.isDone hkept ?_, ⟨hs.level, hs.isDone, hs.stack, ?_, ?_⟩, rfl,
    rfl, fun key h => by rw [hkey key (hsub h)]; rfl⟩
  · have hrest : (s.source.skip n).rest.length < s.source.rest.length := by
      rw [Source.rest_skip, List.length_drop, hs.rest]
      omega
    exact hrest
  · rw [← hs.tokens]
    simp [behindScalar]
  · intro key h
    rw [hkey key (hsub h)]
    exact ⟨hrequired, s.source.line_le_skip n⟩

section Lines
variable {after : Text} {indent start : Nat}

theorem startsToken_quote (hc : c = '\'' ∨ c = '"') (t : Text) : StartsToken (c :: t) := by
  rcases hc with rfl | rfl
  · exact startsToken_cons (by decide) t
  · exact startsToken_cons (by decide) t

theorem startsToken_plain (ht : PlainWords t) (more : Text) :
    StartsToken (plain indent start t ++ more) := by
  intro d hd
  obtain ⟨hgap, hcomment⟩ := ht.head_folded d hd
  have hgap := isGap_eq_false_iff.1 hgap
  exact ⟨hgap.1, hcomment, hgap.2.2⟩

theorem Stands.exists_runs_quoted {more : Text} (hs : s.Stands allowed tokens (top :: outer) column
    (c :: more ++ .char '\n' :: (List.replicate k (Code.char ' ') ++ after))) (hc : c = '\'' ∨
      c = '"')
    (hread : readQuoted c s.source = .ok (x, s.source.skip (c :: more).length))
    (htop : top < column) (hafter : StartsLine after) :
    ∃ next, s.Runs next ∧ next.Before (tokens ++ [.scalar x false]) (top :: outer) k after := by
  have hsettle := hs.settle (startsToken_quote hc _) (by omega)
  obtain ⟨keys, hkeys, hstep⟩ := exists_step_quoted hsettle hc hs.rest hs.keys hread
  obtain ⟨next, hrun, hcarries, hsource, -⟩ := hs.exists_runs_behindScalar htop hkeys (by simp)
    (by simp) hstep
  refine ⟨next, hrun, hcarries.before_of_line ?_ (startsToken_of_startsLine hafter)⟩
  rw [hsource]
  exact Source.rest_skip_append hs.rest

theorem Stands.exists_runs_plain (hs : s.Stands allowed tokens (top :: outer) column
    (plain indent start t ++ .char '\n' ::
      (List.replicate k (Code.char ' ') ++ after))) (ht : PlainWords t)
    (hstart : StartsPlain (plain indent start t ++ .char '\n' ::
      (List.replicate k (Code.char ' ') ++ after)))
    (htop : top < column) (hindent : top < indent) (hk : k ≤ top) (hafter : StartsLine after) :
    ∃ next, s.Runs next ∧ next.Before (tokens ++ [.scalar t true]) (top :: outer) k after := by
  have hsettle := hs.settle (startsToken_plain ht _) (by omega)
  have hread : readPlain false (s.indent + 1).toNat s.source =
      (t, s.source.skip ((plain indent start t).length + (k + 1)), true) := by
    have hm : (s.indent + 1).toNat = top + 1 := by
      rw [hs.indent]
      omega
    rw [hm]
    exact readPlain_plain ht hindent (by omega) (by omega) hafter hs.rest (by rw [hs.column]; omega)
  obtain ⟨keys, hkeys, hstep⟩ := exists_step_plain hsettle hs.level (hs.rest ▸ hstart)
    (by rw [hs.column]; omega) hs.keys hread
  obtain ⟨next, hrun, hcarries, hsource, hallowed, hlines⟩ :=
    hs.exists_runs_behindScalar htop hkeys (by omega) (by simp) hstep
  obtain ⟨hrest, hcolumn, hline⟩ := Source.skip_line hs.rest
  have hbefore := hcarries.before_of_spaces (k := 0) (t := after)
    (fun key h => by rw [hlines key h, hsource]; exact hline) (by rw [hsource]; exact hrest)
    (startsToken_of_startsLine hafter) hallowed
  rw [hsource, hcolumn] at hbefore
  exact ⟨next, hrun, hbefore⟩

/-- A text that may stand without quotes starts like a scalar without quotes, also when it is
written. -/
theorem startsPlain_plain (ht : Style.allowsPlain t = true) (more : Text) :
    StartsPlain (plain indent start t ++ more) := by
  obtain ⟨w, rest, written, hw, hsplit, hwritten, halone⟩ :=
    (plainWords_of_allowsPlain ht).exists_folded indent start true
  obtain ⟨c, w, rfl, hgap, hcomment⟩ := hw.exists_cons
  subst hsplit
  simp only [List.cons_append, Style.allowsPlain, Style.startsOther, Bool.and_eq_true,
    Bool.not_eq_true', Bool.or_eq_false_iff, and_assoc] at ht
  obtain ⟨hindicator, hmark, -⟩ := ht
  refine ⟨c, w ++ written ++ more, by rw [plain, hwritten]; simp, ?_⟩
  by_cases hc : c = '-' ∨ c = '?' ∨ c = ':'
  · refine .inr ⟨?_, hc⟩
    cases w with
    | nil =>
      rw [List.nil_append, halone, Bool.and_true] at hmark
      rcases hc with rfl | rfl | rfl <;> exact absurd hmark (by decide)
    | cons d w => simpa [atGap] using (hw.inline d (by simp)).1
  · have hmarks : ("-?:,[]#&*!|>'\"%@`" : Text).all
        (fun c => (c = '-' ∨ c = '?' ∨ c = ':') ∨ c ∈ Style.indicators) = true := by decide
    have hbraces : .char '\x7b' ∈ Style.indicators ∧ .char '\x7d' ∈ Style.indicators := by decide
    have hindicator : c ∉ Style.indicators := by simpa using hindicator
    refine .inl (startsPlain_iff.2 ⟨hgap, fun h => ?_, ?_, ?_⟩)
    · exact (of_decide_eq_true (List.all_eq_true.1 hmarks c h)).elim hc hindicator
    · rintro rfl
      exact hindicator hbraces.1
    · rintro rfl
      exact hindicator hbraces.2

/-- The token of a text. -/
def textToken (t : Text) : Token := .scalar (readBack t) (Style.ofText t = .plain)

theorem startsToken_writtenText (more : Text) :
    StartsToken (writtenText indent start t ++ more) := by
  cases hstyle : Style.ofText t with
  | plain =>
    rw [writtenText, hstyle]
    exact startsToken_plain (plainWords_of_allowsPlain (Style.ofText_eq_plain_iff.1 hstyle)) more
  | single =>
    rw [writtenText, hstyle]
    exact startsToken_quote (.inl rfl) _
  | double =>
    rw [writtenText, hstyle]
    exact startsToken_quote (.inr rfl) _

/-- A text is read up to the next line. -/
theorem Stands.exists_runs_text (hs : s.Stands allowed tokens (top :: outer) column
    (writtenText indent start t ++ .char '\n' :: (List.replicate k (Code.char ' ') ++ after)))
    (htop : top < column) (hindent : top < indent) (hlast : indent < lastColumn) (hk : k ≤ top)
    (hafter : StartsLine after) :
    ∃ next, s.Runs next ∧ next.Before (tokens ++ [textToken t]) (top :: outer) k after := by
  cases hstyle : Style.ofText t with
  | plain =>
    have hallows := Style.ofText_eq_plain_iff.1 hstyle
    have htoken : textToken t = .scalar t true := by simp [textToken, readBack, hstyle]
    rw [writtenText, hstyle] at hs
    rw [htoken]
    exact hs.exists_runs_plain (plainWords_of_allowsPlain hallows) (startsPlain_plain hallows _)
      htop hindent hk hafter
  | single =>
    have hallows := Style.allowsSingle_of_ofText hstyle
    have htoken : textToken t = .scalar (readSingle t) false := by
      simp [textToken, readBack, hstyle]
    rw [writtenText, hstyle] at hs
    rw [htoken]
    exact hs.exists_runs_quoted (.inl rfl)
      (readQuoted_single (by omega) hallows (by simp) hs.rest) htop hafter
  | double =>
    have htoken : textToken t = .scalar t false := by simp [textToken, readBack, hstyle]
    rw [writtenText, hstyle] at hs
    rw [htoken]
    exact hs.exists_runs_quoted (.inr rfl) (readQuoted_double (by omega) hlast hs.rest) htop hafter

/-- A simple word is read as it is, up to the next line. -/
theorem Stands.exists_runs_word {w : Text} (hs : s.Stands allowed tokens (top :: outer) column
    (w ++ .char '\n' :: (List.replicate k (Code.char ' ') ++ after))) (hw :
      IsSimpleWord w) (htop : top < column)
    (hk : k ≤ top) (hafter : StartsLine after) :
    ∃ next, s.Runs next ∧ next.Before (tokens ++ [.scalar w true]) (top :: outer) k after := by
  have hplain : plain (top + 1) 0 w = w := hw.word.folded_runs _ _ true
  rw [← hplain] at hs
  exact hs.exists_runs_plain (.word hw.word) (hplain.symm ▸ hw.startsPlain) htop (by omega) hk
    hafter

end Lines

end Scalars

/-! ## Marks -/

section Marks
variable {allowed : Bool} {tokens : List Token} {outer : List Int} {top column : Nat} {after : Text}

/-- A dash in the column of the block around it opens no block. -/
theorem Stands.exists_runs_dash
    (hs : s.Stands true tokens (top :: outer) top (.char '-' :: .char ' ' :: t))
    (ht : StartsToken t) :
    ∃ next, s.Runs next ∧ next.Before (tokens ++ [.blockEntry]) (top :: outer) (top + 2) t := by
  have hsettle := hs.settle (startsToken_cons (by decide) _) (Int.le_refl _)
  have hopen : s.openBlock .blockSequenceStart = s := by
    rw [openBlock, indentTo, if_neg (by rw [hs.indent, hs.column]; omega)]
  have hallowed : ({ s with keyAllowed := true } : Reading).dropKey =
      .ok { s with keyAllowed := true } := dropKeys_of_keys _ hs.keys
  have hstep : s.step = .ok (take { s with keyAllowed := true } .blockEntry) := by
    have hflow : s.inFlow = false := by simp [inFlow, hs.level]
    rw [step_dash hsettle hs.rest, readBlockEntry, hflow, hs.keyAllowed]
    simp only [Bool.not_true, Bool.and_false, Bool.false_eq_true, if_false, hopen, hallowed, bind,
      Except.bind]
    rfl
  have hnext : s.source.next = ⟨s.source.right, .char ' ' :: t⟩ :=
    Source.next_of_inline hs.rest (by decide)
  have hkeys : (take { s with keyAllowed := true } .blockEntry).keys = [] := hs.keys
  have hsource : (take { s with keyAllowed := true } .blockEntry).source =
      ⟨s.source.right, .char ' ' :: t⟩ := hnext
  have hcarries : (take { s with keyAllowed := true } .blockEntry).Carries
      (tokens ++ [.blockEntry]) (top :: outer) := by
    refine ⟨hs.level, hs.isDone, hs.stack, ?_, by simp [hkeys]⟩
    rw [← hs.tokens]
    simp [take, push, moveTo]
  have hbefore := hcarries.before_of_spaces (k := 1) (t := t) (by simp [hkeys])
    (by rw [hsource]; rfl) ht rfl
  have hcolumn : (take { s with keyAllowed := true } .blockEntry).source.column + 1 = top + 2 := by
    rw [hsource]
    exact congrArg (· + 2) hs.column
  rw [hcolumn] at hbefore
  exact ⟨_, runs_of_step hstep hs.isDone (dropKeys_of_keys _ hkeys)
    (by rw [hsource, hs.rest]; simp), hbefore⟩

/-- The reading within the brackets of an empty list. -/
def withinBrackets (r : Reading) : Reading :=
  take { r with level := r.level + 1, keyAllowed := true } .flowSequenceStart

/-- The reading behind the brackets of an empty list, from the closing one on. -/
def behindBrackets (r : Reading) : Reading :=
  take { r with level := r.level - 1, keyAllowed := false } .flowSequenceEnd

/-- An empty list behind a key. -/
theorem Stands.exists_runs_brackets (hs : s.Stands false tokens (top :: outer) column
    (.char '[' :: .char ']' :: .char '\n' ::
      (List.replicate k (Code.char ' ') ++ after))) (htop : top ≤ column)
    (hafter : StartsToken after) :
    ∃ next, s.Runs next ∧
      next.Before (tokens ++ [.flowSequenceStart, .flowSequenceEnd]) (top :: outer) k after := by
  have hopen : s.step = .ok s.withinBrackets := by
    rw [step_opening (hs.settle (startsToken_cons (by decide) _) (by omega)) hs.rest, openFlow,
      saveKey_of_not_allowed hs.keyAllowed]
    rfl
  have hwithin : s.withinBrackets.source =
      ⟨s.source.right, .char ']' :: .char '\n' :: (List.replicate k (Code.char ' ') ++ after)⟩ :=
    Source.next_of_inline hs.rest (by decide)
  have hkeys : s.withinBrackets.keys = [] := hs.keys
  have hindent : s.withinBrackets.indent = top := hs.indent
  have hcolumn : s.withinBrackets.source.column = column + 1 := by
    rw [hwithin, ← hs.column]
    rfl
  have hsettle : s.withinBrackets.settle = .ok s.withinBrackets :=
    settle_eq_self (dropKeys_of_keys _ hkeys) (congrArg Source.rest hwithin)
      (startsToken_cons (by decide) _) (by rw [hindent, hcolumn]; omega)
  have hclose : s.withinBrackets.step = .ok s.withinBrackets.behindBrackets := by
    rw [step_closing hsettle (by rw [hwithin]), closeFlow, dropKey, dropKeys_of_keys _ hkeys]
    rfl
  have hbehind : s.withinBrackets.behindBrackets.source.rest =
      .char '\n' :: (List.replicate k (Code.char ' ') ++ after) := by
    have hsource : s.withinBrackets.behindBrackets.source = s.withinBrackets.source.next := rfl
    rw [hsource, Source.rest_next, hwithin]
    rfl
  have hkeys' : s.withinBrackets.behindBrackets.keys = [] := hs.keys
  have hcarries : s.withinBrackets.behindBrackets.Carries
      (tokens ++ [.flowSequenceStart, .flowSequenceEnd]) (top :: outer) := by
    refine ⟨?_, hs.isDone, hs.stack, ?_, by simp [hkeys']⟩
    · exact congrArg (· + 1 - 1) hs.level
    · rw [← hs.tokens]
      simp [behindBrackets, withinBrackets, take, push, moveTo]
  refine ⟨_, .trans (runs_of_step hopen hs.isDone (dropKeys_of_keys _ hkeys) ?_)
    (runs_of_step hclose hs.isDone (dropKeys_of_keys _ hkeys') ?_),
    hcarries.before_of_line hbehind hafter⟩
  · rw [hwithin, hs.rest]
    simp
  · rw [hbehind, hwithin]
    simp

theorem finish_of_stands (hs : s.Stands allowed tokens [0, -1] column t) :
    ∃ last, s.finish = .ok last ∧ last.isDone = true ∧
      last.tokens.reverse.map (·.token) = tokens ++ [.blockEnd, .streamEnd] := by
  have hstack : s.Stands allowed tokens ([0] ++ [-1]) column t := hs
  have hopen : ∀ c ∈ [(0 : Int)], -1 < c := by simp
  have hstands := unwind_of_stands hstack hopen (Int.le_refl _)
  refine ⟨push { s.unwind (-1) with keyAllowed := false, keys := [], isDone := true } .streamEnd,
    ?_, rfl, ?_⟩
  · rw [finish, dropKey, dropKeys_of_keys _ hstands.keys]
    rfl
  · have htokens := hstands.tokens
    simp only [List.map_cons, List.map_nil] at htokens
    simp [push, htokens]

/-- At the end of the text the outermost block ends, and with it the tokens. -/
theorem Before.read_end (h : r.Before tokens [0, -1] 0 []) {fuel : Nat}
    (hfuel : r.source.rest.length < fuel) :
    (Tokens.read fuel r).tokens.map (·.token) = tokens ++ [.blockEnd, .streamEnd] ∧
      (Tokens.read fuel r).fault = none := by
  obtain ⟨-, s, pending, former, hskip, hs, hpending, rfl⟩ := h
  have hstands := unwind_of_stands hs hpending (Int.le_refl _)
  have hcolumn : (s.source.column : Int) = 0 := congrArg Nat.cast hs.column
  have hsettle := settle_eq_ok_iff.2 ⟨s, hskip, rfl⟩
  rw [hcolumn] at hsettle
  have hend := hstands.settle (by simp [StartsToken]) (Int.le_refl _)
  obtain ⟨last, hlast, hdone, htokens⟩ := finish_of_stands hstands
  have hstep := (step_congr hsettle hend).trans ((step_end hend hstands.rest).trans hlast)
  obtain ⟨fuel, rfl⟩ : ∃ f, fuel = f + 1 := ⟨fuel - 1, by omega⟩
  rw [Tokens.read, hstep]
  simp only [hdone, if_true]
  exact ⟨htokens, trivial⟩

end Marks

end Reading
end MarkupNaming.Yaml
