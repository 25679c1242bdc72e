import MarkupNaming.Proofs.Yaml.Scalar.Escape
import MarkupNaming.Proofs.Yaml.Scalar.Folding

/-!
# Reading quoted scalars

What is written between quotes is read one part at a time: a character, an escape, spaces within a
line, or line breaks and the spaces behind them. In double quotes every text is read as it was. In
single quotes the line breaks of a text fold, and a next line character comes back as a line feed.
-/
namespace MarkupNaming.Yaml
open Text Written

/-- In front of the closing quote and what follows it, a written text is read as another one. -/
def ReadsAs (start : Mark) (quote : Code) (after written t : Text) : Prop :=
  ∀ s fuel, s.rest = written ++ quote :: after → s.rest.length ≤ fuel →
    readQuotedRest start quote fuel s = .ok (t, s.skip (written.length + 1))

variable {start : Mark} {quote c : Code} {after written part t more gap : Text} {k n : Nat}

/-- Reading goes on behind what one step takes. -/
theorem ReadsAs.of_step (hpart : part ≠ []) (hmore : ReadsAs start quote after written more)
    (hstep : ∀ s fuel final, s.rest = part ++ (written ++ quote :: after) →
      readQuotedRest start quote fuel (s.skip part.length) = .ok (more, final) →
        readQuotedRest start quote (fuel + 1) s = .ok (t, final)) :
    ReadsAs start quote after (part ++ written) t := by
  intro s fuel h hfuel
  rw [List.append_assoc] at h
  have hlength := List.length_pos_iff.2 hpart
  rw [h, List.length_append] at hfuel
  obtain ⟨fuel, rfl⟩ : ∃ f, fuel = f + 1 := ⟨fuel - 1, by omega⟩
  have hrest := Source.rest_skip_append h
  have hread := hmore (s.skip part.length) fuel hrest (by rw [hrest]; omega)
  rw [List.length_append, Nat.add_assoc, Source.skip_add]
  exact hstep s fuel _ h hread

/-! ## Characters -/

/-- The closing quote. -/
theorem readsAs_nil (hafter : quote = '\'' → after.head? ≠ some (.char '\'')) :
    ReadsAs start quote after [] [] := by
  intro s fuel h hfuel
  rw [List.nil_append] at h
  obtain ⟨fuel, rfl⟩ : ∃ f, fuel = f + 1 := by
    rw [h, List.length_cons] at hfuel
    exact ⟨fuel - 1, by omega⟩
  rw [readQuotedRest, h]
  simp only [if_true]
  rw [if_neg fun hquote => hafter hquote.1 hquote.2]
  rfl

theorem readsAs_char (hquote : c ≠ quote) (hgap : isGap c = false)
    (hescape : c ≠ '\\' ∨ quote ≠ '"') (hmore : ReadsAs start quote after written more) :
    ReadsAs start quote after (c :: written) (c :: more) := by
  refine .of_step (show [c] ≠ [] by simp) hmore fun s fuel final h hread => ?_
  have hescape : ¬(c = '\\' ∧ quote = '"') := fun ⟨hc, hq⟩ => hescape.elim (· hc) (· hq)
  rw [List.length_singleton, Source.skip_succ, Source.skip_zero] at hread
  rw [readQuotedRest, h]
  simp only [List.singleton_append, if_neg hquote, hgap, Bool.false_eq_true, if_false,
    if_neg hescape, hread]
  rfl

/-- A single quote is written twice within single quotes. -/
theorem readsAs_quote (hmore : ReadsAs start '\'' after written more) :
    ReadsAs start '\'' after (.char '\'' :: .char '\'' :: written) (.char '\'' :: more) := by
  have hne : [Code.char '\'', .char '\''] ≠ [] := by simp
  refine .of_step hne hmore fun s fuel final h hread => ?_
  rw [readQuotedRest, h]
  simp only [List.cons_append, List.nil_append, if_true, List.head?_cons, and_self]
  rw [show [Code.char '\'', .char '\''].length = 2 from rfl] at hread
  rw [hread]
  rfl

/-- A word within single quotes. -/
theorem readsAs_word {w : Text} (hw : ∀ c ∈ w, isGap c = false)
    (hmore : ReadsAs start '\'' after written more) :
    ReadsAs start '\'' after (doubled w ++ written) (w ++ more) := by
  induction w with
  | nil => exact hmore
  | cons c w ih =>
    have hc := hw c List.mem_cons_self
    have ih := ih fun d hd => hw d (List.mem_cons_of_mem c hd)
    by_cases hquote : c = '\''
    · have hdoubled : doubled (c :: w) =
        .char '\'' :: .char '\'' :: doubled w := by simp [doubled, hquote]
      rw [hdoubled, hquote]
      exact readsAs_quote ih
    · have hdoubled : doubled (c :: w) = c :: doubled w := by simp [doubled, hquote]
      rw [hdoubled]
      exact readsAs_char hquote hc (.inr (by decide)) ih

/-! ## Gaps -/

/-- A text that starts with no gap. -/
def StartsWord (t : Text) : Prop := ∀ c ∈ t.head?, isGap c = false

theorem StartsWord.not_blank (h : StartsWord t) : ∀ c ∈ t.head?, (c == ' ' || c == '\t') = false :=
  fun c hc => by
    have hgap := h c hc
    rw [isGap, Bool.or_eq_false_iff] at hgap
    exact hgap.1

theorem StartsWord.not_break (h : StartsWord t) : ∀ c ∈ t.head?, isBreak c = false := fun c hc =>
  (isGap_eq_false_iff.1 (h c hc)).2.2

theorem StartsWord.takeWhile_blanks (ht : StartsWord t) :
    (List.replicate n (Code.char ' ') ++ t).takeWhile (fun c =>
      c == Code.char ' ' || c == Code.char '\t') =
      List.replicate n (Code.char ' ') :=
  takeWhile_append_of_startsOutside (by simp) ht.not_blank

theorem readsAs_gap (part : Text) (hquote : isGap quote = false) (hgap : isGap c = true)
    (hread : ∀ s, s.rest = c :: part ++ (written ++ quote :: after) →
      readBlanks start s = .ok (gap, s.skip (c :: part).length))
    (hmore : ReadsAs start quote after written more) :
    ReadsAs start quote after (c :: part ++ written) (gap ++ more) := by
  have hne : c ≠ quote := by
    rintro rfl
    rw [hgap] at hquote
    cases hquote
  refine .of_step (by simp) hmore fun s fuel final h hrest => ?_
  have hread := hread s h
  rw [readQuotedRest, h]
  simp only [List.cons_append, if_neg hne, hgap, if_true, hread, bind, Except.bind, hrest]
  rfl

/-- Spaces within a line. -/
theorem readsAs_spaces (hquote : isGap quote = false)
    (hword : StartsWord (written ++ quote :: after))
    (hmore : ReadsAs start quote after written more) :
    ReadsAs start quote after (List.replicate n (Code.char ' ') ++
      written) (List.replicate n (Code.char ' ') ++ more) := by
  cases n with
  | zero => exact hmore
  | succ n =>
    refine readsAs_gap (c := ' ') (List.replicate n (Code.char ' ')) hquote (by decide) (fun s h =>
      ?_) hmore
    rw [← List.replicate_succ, List.length_replicate] at *
    have hrest : (s.skip (n + 1)).rest = written ++ quote :: after := by
      rw [Source.rest_skip, h, List.drop_left' (List.length_replicate ..)]
    have hbreak : (s.skip (n + 1)).lineBreak? = none :=
      Source.lineBreak?_of_not_break (hrest ▸ hword.not_break)
    rw [readBlanks]
    simp only [h, hword.takeWhile_blanks, List.length_replicate, hrest, hbreak]
    cases written <;> rfl

/-! ## Line breaks -/

/-- The character that a written line break is read as. -/
def readBreak (c : Code) : Code := if c = '\x85' then '\n' else c

/-- What line breaks that stand in a quoted scalar are read as. -/
def readBreaks : Text → Text
  | [] => []
  | c :: rest => foldBreaks [readBreak c] (rest.map readBreak)

section Breaks
variable {s : Source} {b : Text}

theorem isGap_of_isWrittenBreak (hc : Style.isWrittenBreak c = true) : isGap c = true := by
  simp only [Style.isWrittenBreak, Bool.or_eq_true, beq_iff_eq] at hc
  rcases hc with ((rfl | rfl) | rfl) | rfl <;> decide

theorem lineBreak?_of_isWrittenBreak (h : s.rest = c :: t) (hc : Style.isWrittenBreak c = true) :
    s.lineBreak? = some ([readBreak c], s.next) := by
  simp only [Style.isWrittenBreak, Bool.or_eq_true, beq_iff_eq] at hc
  rcases hc with ((rfl | rfl) | rfl) | rfl <;> simp [Source.lineBreak?, h, readBreak]

theorem takeWhile_blanks_of_isWrittenBreak (h : s.rest = c :: t)
    (hc : Style.isWrittenBreak c = true) :
    s.rest.takeWhile (fun c => c == .char ' ' || c == .char '\t') = [] := by
  simp only [Style.isWrittenBreak, Bool.or_eq_true, beq_iff_eq] at hc
  rw [h]
  rcases hc with ((rfl | rfl) | rfl) | rfl <;> rfl

/-- A line of line breaks or of spaces is no mark of a document. -/
theorem atSeparator_of_breaks (hb : ∀ c ∈ b, Style.isWrittenBreak c = true)
    (h : s.rest = b ++ (List.replicate k (Code.char ' ') ++ t)) (hpos : 0 < k) :
      s.atSeparator = false := by
  refine Source.atSeparator_of_head fun c hc => ?_
  have hgap : isGap c = true := by
    rw [h] at hc
    cases b with
    | nil =>
      obtain ⟨k, rfl⟩ : ∃ m, k = m + 1 := ⟨k - 1, by omega⟩
      obtain rfl : ' ' = c := by simpa [List.replicate_succ] using hc
      decide
    | cons d b =>
      obtain rfl : d = c := by simpa using hc
      exact isGap_of_isWrittenBreak (hb d List.mem_cons_self)
  constructor <;>
  · rintro rfl
    exact absurd hgap (by decide)

/-- Line breaks and the spaces behind them. -/
theorem quotedBreaks_breaks (start : Mark) (fuel : Nat)
    (hb : ∀ c ∈ b, Style.isWrittenBreak c = true)
    (h : s.rest = b ++ (List.replicate k (Code.char ' ') ++ t)) (hpos : 0 < k) (ht : StartsWord t)
    (hfuel : b.length < fuel) :
    quotedBreaks start fuel s = .ok (b.map readBreak, s.skip (b.length + k)) := by
  have hseparator := atSeparator_of_breaks hb h hpos
  obtain ⟨fuel, rfl⟩ : ∃ f, fuel = f + 1 := ⟨fuel - 1, by omega⟩
  induction b generalizing s fuel with
  | nil =>
    rw [List.nil_append] at h
    have hbreak : (s.skip k).lineBreak? = none := by
      refine Source.lineBreak?_of_not_break ?_
      rw [Source.rest_skip, h, List.drop_left' (List.length_replicate ..)]
      exact ht.not_break
    rw [quotedBreaks, hseparator]
    simp only [Source.skipWhile, h, ht.takeWhile_blanks, List.length_replicate, hbreak,
      List.length_nil, Nat.zero_add]
    rfl
  | cons c b ih =>
    have hc := hb c List.mem_cons_self
    have hb := fun d hd => hb d (List.mem_cons_of_mem c hd)
    have hrest : s.next.rest = b ++ (List.replicate k (Code.char ' ') ++ t) := by
      rw [Source.rest_next, h]
      rfl
    rw [List.length_cons] at hfuel
    obtain ⟨fuel, rfl⟩ : ∃ f, fuel = f + 1 := ⟨fuel - 1, by omega⟩
    have hmore := ih hb hrest (atSeparator_of_breaks hb hrest hpos) fuel (by omega)
    rw [quotedBreaks, hseparator]
    simp only [Source.skipWhile, takeWhile_blanks_of_isWrittenBreak h hc, List.length_nil,
      Source.skip_zero, lineBreak?_of_isWrittenBreak h hc, hmore, bind, Except.bind]
    rw [List.length_cons, Nat.succ_add, Source.skip_succ]
    rfl

/-- Line breaks fold within quotes, and the spaces behind them do not count. -/
theorem readsAs_breaks (hb : ∀ c ∈ b, Style.isWrittenBreak c = true) (hne : b ≠ [])
    (hpos : 0 < k) (hquote : isGap quote = false) (hword : StartsWord (written ++ quote :: after))
    (hmore : ReadsAs start quote after written more) :
    ReadsAs start quote after (b ++ List.replicate k (Code.char ' ') ++ written) (readBreaks b ++
      more) := by
  obtain ⟨c, b, rfl⟩ := List.exists_cons_of_ne_nil hne
  have hc := hb c List.mem_cons_self
  have hb := fun d hd => hb d (List.mem_cons_of_mem c hd)
  refine readsAs_gap (b ++ List.replicate k (Code.char ' ')) hquote (isGap_of_isWrittenBreak hc)
    (fun s h => ?_) hmore
  have hrest : s.next.rest =
      b ++ (List.replicate k (Code.char ' ') ++ (written ++ quote :: after)) := by
    rw [Source.rest_next, h]
    simp
  have hbreaks := quotedBreaks_breaks start (s.next.rest.length + 1) hb hrest hpos hword
    (by rw [hrest, List.length_append]; omega)
  rw [readBlanks]
  simp only [takeWhile_blanks_of_isWrittenBreak h hc, List.length_nil, Source.skip_zero,
    lineBreak?_of_isWrittenBreak h hc]
  rw [h]
  simp only [List.cons_append, hbreaks, bind, Except.bind]
  rw [List.length_cons, List.length_append, List.length_replicate, Source.skip_succ]
  rfl

end Breaks

/-! ## Single quotes -/

/-- What a run of a text in single quotes is read as. -/
def readRun (run : Text) : Text :=
  if run.head?.map Kind.of = some .breaking then readBreaks (breaks run) else run

/-- What a text in single quotes is read as. -/
def readSingle (t : Text) : Text := (runs t).flatMap readRun

theorem Style.adjacent_append {p q : Code → Bool} {a b : Text}
    (h : Style.adjacent p q (a ++ b) = false) : Style.adjacent p q b = false ∧
      ∀ c ∈ a.getLast?, ∀ d ∈ b.head?, p c = true → q d = false := by
  induction a with
  | nil => exact ⟨h, by simp⟩
  | cons c a ih =>
    cases a with
    | nil =>
      cases b with
      | nil => exact ⟨rfl, by simp⟩
      | cons d b =>
        simp only [List.cons_append, List.nil_append, Style.adjacent, Bool.or_eq_false_iff] at h
        refine ⟨h.2, fun x hx y hy hp => ?_⟩
        obtain rfl : c = x := by simpa using hx
        obtain rfl : d = y := by simpa using hy
        simpa [hp] using h.1
    | cons d a =>
      simp only [List.cons_append, Style.adjacent, Bool.or_eq_false_iff] at h
      simpa using ih h.2

/-- The parts of a text that may stand in single quotes. -/
theorem Style.allowsSingle_append {a b : Text} (h : Style.allowsSingle (a ++ b) = true) :
    Style.allowsSingle b = true ∧ (∀ c ∈ a, Style.isLiteral c = true) ∧
      (∀ c ∈ a.getLast?, ∀ d ∈ b.head?, Style.isWrittenBreak c = true → d ≠ ' ') ∧
        ∀ c ∈ a.getLast?, ∀ d ∈ b.head?, c = ' ' → Style.isWrittenBreak d = false := by
  simp only [Style.allowsSingle, Bool.and_eq_true, List.all_eq_true, Bool.not_eq_true'] at h ⊢
  obtain ⟨⟨hall, hbreak⟩, hspace⟩ := h
  obtain ⟨hbreak, hbreak'⟩ := Style.adjacent_append hbreak
  obtain ⟨hspace, hspace'⟩ := Style.adjacent_append hspace
  refine ⟨⟨⟨fun c hc => hall c (List.mem_append_right _ hc), hbreak⟩, hspace⟩,
    fun c hc => hall c (List.mem_append_left _ hc), fun c hc d hd hp => ?_, fun c hc d hd hp => ?_⟩
  · simpa using hbreak' c hc d hd hp
  · exact hspace' c hc d hd (by simp [hp])

theorem isLiteral_of_allowsSingle (h : Style.allowsSingle t = true) (hc : c ∈ t) :
    Style.isLiteral c = true := by
  simp only [Style.allowsSingle, Bool.and_eq_true, List.all_eq_true] at h
  exact h.1.1 c hc

section Single
variable {indent column : Nat} {first : Bool} {kind : Kind} {run rest : Text}

/-- Behind a gap of a text that may stand in single quotes there is a word. -/
theorem head_behind_gap (ht : Style.allowsSingle (run ++ rest) = true) (hrun : run ≠ [])
    (hkind : ∀ c ∈ run, Kind.of c = kind) (hrest : ∀ c ∈ rest.head?, Kind.of c ≠ kind)
    (hgap : kind ≠ .other) : ∀ c ∈ rest.head?, Style.isLiteral c = true ∧ Kind.of c = .other := by
  obtain ⟨hallowed, -, hbreak, hspace⟩ := Style.allowsSingle_append ht
  intro c hc
  refine ⟨isLiteral_of_allowsSingle hallowed (List.mem_of_head? hc), ?_⟩
  have hlast := hkind _ (List.getLast_mem hrun)
  have hmem := List.getLast_mem_getLast? hrun
  cases kind with
  | other => exact absurd rfl hgap
  | space =>
    exact kind_eq_other_iff.2 ⟨fun h => hrest c hc (h ▸ kind_space),
      hspace _ hmem c hc (eq_space_of_kind hlast)⟩
  | breaking =>
    refine kind_eq_other_iff.2 ⟨hbreak _ hmem c hc (kind_eq_breaking_iff.1 hlast), ?_⟩
    exact Bool.eq_false_iff.2 fun h => hrest c hc (kind_eq_breaking_iff.2 h)

/-- In single quotes a text that starts with a word does so when it is written. -/
theorem startsWord_folded (ht : ∀ c ∈ t.head?, Style.isLiteral c = true ∧ Kind.of c = .other) :
    StartsWord (folded indent doubled column first (runs t) ++ .char '\'' :: after) := by
  intro d hd
  by_cases hne : t = []
  · subst hne
    obtain rfl : '\'' = d := by simpa using hd
    decide
  · obtain ⟨kind, run, rest, rfl, hrun, hkind, hrest⟩ := exists_run hne
    obtain ⟨c, run, rfl⟩ := List.exists_cons_of_ne_nil hrun
    obtain ⟨hliteral, hother⟩ := ht c rfl
    obtain rfl : Kind.other = kind := hother.symm.trans (hkind c List.mem_cons_self)
    rw [runs_append hrun hkind hrest, folded_word hrun hkind] at hd
    by_cases hquote : c = '\''
    · subst hquote
      obtain rfl : '\'' = d := by simpa [doubled] using hd
      decide
    · obtain rfl : c = d := by simpa [doubled, hquote] using hd
      exact isGap_eq_false_of_isLiteral hliteral hother

/-- Written line breaks are line breaks. -/
theorem breaks_spec (hne : run ≠ []) (hrun : ∀ c ∈ run, Style.isWrittenBreak c = true) :
    (∀ c ∈ breaks run, Style.isWrittenBreak c = true) ∧ breaks run ≠ [] := by
  unfold breaks
  split
  · exact ⟨List.forall_mem_cons.2 ⟨by decide, hrun⟩, by simp⟩
  · exact ⟨hrun, hne⟩

theorem readSingle_append (hrun : run ≠ []) (hkind : ∀ c ∈ run, Kind.of c = kind)
    (hrest : ∀ c ∈ rest.head?, Kind.of c ≠ kind) :
    readSingle (run ++ rest) = readRun run ++ readSingle rest := by
  rw [readSingle, runs_append hrun hkind hrest]
  rfl

/-- A text in single quotes is read with its line breaks folded. -/
theorem readsAs_folded (start : Mark) (column : Nat) (first : Bool) (hindent : 0 < indent)
    (ht : Style.allowsSingle t = true) (hafter : after.head? ≠ some (.char '\'')) :
    ReadsAs start '\'' after (folded indent doubled column first (runs t)) (readSingle t) := by
  induction t using runs_induction generalizing column first with
  | nil => exact readsAs_nil fun _ => hafter
  | run kind run rest hrun hkind hrest ih =>
    obtain ⟨hallowed, hliteral, -⟩ := Style.allowsSingle_append ht
    have hkind_head : run.head?.map Kind.of = some kind := by
      obtain ⟨c, run, rfl⟩ := List.exists_cons_of_ne_nil hrun
      exact congrArg some (hkind c List.mem_cons_self)
    rw [readSingle_append hrun hkind hrest, readRun, hkind_head, runs_append hrun hkind hrest]
    cases kind with
    | other =>
      rw [folded_word hrun hkind]
      exact readsAs_word (fun c hc => isGap_eq_false_of_isLiteral (hliteral c hc) (hkind c hc))
        (ih _ _ hallowed)
    | space =>
      have hword := head_behind_gap ht hrun hkind hrest (by decide)
      rw [eq_replicate_of_kind hkind, folded_spaces (List.length_pos_iff.2 hrun)]
      split
      · next hline =>
        rw [hline.1]
        exact readsAs_breaks (b := [.char '\n']) (by simp [Style.isWrittenBreak]) (by decide)
          hindent
          (by decide) (startsWord_folded hword) (ih _ _ hallowed)
      · exact readsAs_spaces (by decide) (startsWord_folded hword) (ih _ _ hallowed)
    | breaking =>
      have hword := head_behind_gap ht hrun hkind hrest (by decide)
      obtain ⟨hbreaks, hne⟩ := breaks_spec hrun fun c hc => kind_eq_breaking_iff.1 (hkind c hc)
      rw [folded_breaks hrun hkind]
      exact readsAs_breaks hbreaks hne hindent (by decide) (startsWord_folded hword)
        (ih _ _ hallowed)

theorem readBreak_ne (c : Code) : readBreak c ≠ '\x85' := by
  unfold readBreak
  split
  · decide
  · assumption

theorem map_readBreak_eq_self (h : .char '\x85' ∉ t) : t.map readBreak = t := by
  have hread : ∀ c ∈ t, readBreak c = id c := by
    intro c hc
    refine if_neg ?_
    rintro rfl
    exact h hc
  rw [List.map_congr_left hread, List.map_id]

theorem not_mem_foldBreaks {first : Text} (hfirst : .char '\x85' ∉ first)
    (hrest : .char '\x85' ∉ t) :
    .char '\x85' ∉ foldBreaks first t := by
  unfold foldBreaks
  split
  · exact fun hmem => (List.mem_append.1 hmem).elim hfirst hrest
  · split
    · decide
    · exact hrest

theorem not_mem_readBreaks (t : Text) : .char '\x85' ∉ readBreaks t := by
  have hmap (t : Text) : .char '\x85' ∉ t.map readBreak := fun hmem => by
    obtain ⟨c, -, hc⟩ := List.mem_map.1 hmem
    exact readBreak_ne c hc
  cases t with
  | nil => exact List.not_mem_nil
  | cons c t => exact not_mem_foldBreaks (hmap [c]) (hmap t)

/-- Line breaks that are written are read as they were, next line characters apart. -/
theorem readBreaks_breaks (hne : run ≠ []) (h : .char '\x85' ∉ run) :
    readBreaks (breaks run) = run := by
  obtain ⟨c, run, rfl⟩ := List.exists_cons_of_ne_nil hne
  have hmap := map_readBreak_eq_self h
  obtain ⟨hc, hrun⟩ := List.cons.inj hmap
  by_cases hfeed : c = '\n'
  · rw [breaks, if_pos (by simp [hfeed]), readBreaks, hmap, hfeed]
    rfl
  · rw [breaks, if_neg (by simpa using hfeed), readBreaks, hc, hrun, foldBreaks,
      if_pos (by simpa using hfeed)]
    rfl

/-- A run is read without next line characters, and it is read as it was if it had none. -/
theorem readRun_spec (hrun : run ≠ []) (hkind : ∀ c ∈ run, Kind.of c = kind) :
    .char '\x85' ∉ readRun run ∧ (.char '\x85' ∉ run → readRun run = run) := by
  unfold readRun
  split
  · exact ⟨not_mem_readBreaks _, readBreaks_breaks hrun⟩
  · next hbreak =>
    refine ⟨fun hmem => hbreak ?_, fun _ => rfl⟩
    obtain ⟨c, run, rfl⟩ := List.exists_cons_of_ne_nil hrun
    have hnext : Kind.of '\x85' = .breaking := by decide
    exact congrArg some (((hkind c List.mem_cons_self).trans (hkind _ hmem).symm).trans hnext)

/-- A text in single quotes is read as it was if and only if it has no next line characters. -/
theorem readSingle_eq_self_iff : readSingle t = t ↔ .char '\x85' ∉ t := by
  have hspec : .char '\x85' ∉ readSingle t ∧ (.char '\x85' ∉ t → readSingle t = t) := by
    induction t using runs_induction with
    | nil => exact ⟨List.not_mem_nil, fun _ => rfl⟩
    | run kind run rest hrun hkind hrest ih =>
      obtain ⟨hnext, hsame⟩ := readRun_spec hrun hkind
      rw [readSingle_append hrun hkind hrest]
      refine ⟨fun hmem => (List.mem_append.1 hmem).elim hnext ih.1, fun h => ?_⟩
      rw [hsame fun hmem => h (List.mem_append_left _ hmem),
        ih.2 fun hmem => h (List.mem_append_right _ hmem)]
  exact ⟨fun h => h ▸ hspec.1, hspec.2⟩

end Single

/-! ## Double quotes -/

/-- A backslash within double quotes, with what it counts as. -/
theorem readsAs_backslash (chars body : Text)
    (hread : ∀ s, s.rest = body ++ (written ++ .char '"' :: after) →
      readEscape start s = .ok (chars, s.skip body.length))
    (hmore : ReadsAs start '"' after written more) :
    ReadsAs start '"' after (.char '\\' :: body ++ written) (chars ++ more) := by
  refine .of_step (by simp) hmore fun s fuel final h hrest => ?_
  have hread := hread s.next (by rw [Source.rest_next, h]; rfl)
  rw [List.length_cons, Source.skip_succ] at hrest
  rw [readQuotedRest, h]
  simp only [List.cons_append]
  rw [if_neg (by decide), if_neg (by decide), if_pos (by decide), hread]
  simp only [bind, Except.bind, hrest]
  rfl

/-- An escape within double quotes. -/
theorem readsAs_escape (hmore : ReadsAs start '"' after written more) :
    ReadsAs start '"' after (escape c ++ written) (c :: more) := by
  obtain ⟨body, hbody⟩ := exists_escape c
  rw [hbody]
  exact readsAs_backslash [c] body (fun s h => readEscape_escape start hbody h) hmore

/-- A space is kept by a backslash. -/
theorem readsAs_space (hmore : ReadsAs start '"' after written more) :
    ReadsAs start '"' after (.char '\\' :: .char ' ' :: written) (.char ' ' :: more) :=
  readsAs_backslash [.char ' '] [.char ' '] (fun s h => by rw [readEscape, h]; rfl) hmore

section Double
variable {indent column : Nat} {fresh first : Bool}

/-- The end of a line does not count, nor do the spaces at the start of the next one. -/
theorem readsAs_newLine (hindent : 0 < indent) (hword : StartsWord (written ++ .char '"' :: after))
    (hmore : ReadsAs start '"' after written more) :
    ReadsAs start '"' after (.char '\\' :: newLine indent ++ written) more := by
  refine readsAs_backslash [] (newLine indent) (fun s h => ?_) hmore
  have hbreak : s.rest =
      .char '\n' :: (List.replicate indent (Code.char ' ') ++ (written ++ .char '"' :: after)) := by
    rw [h]
    simp [newLine]
  have hspaces : s.next.rest =
      [] ++ (List.replicate indent (Code.char ' ') ++ (written ++ .char '"' :: after)) := by
    rw [Source.rest_next, hbreak]
    rfl
  have hbreaks := quotedBreaks_breaks start (s.next.rest.length + 1) (by simp) hspaces hindent
    hword (by simp)
  have hlookup : escapes.lookup (.char '\n') = none := by decide
  have hwidth : escapeWidth? '\n' = none := by decide
  rw [readEscape, hbreak]
  simp only [hlookup, hwidth, Source.lineBreak?_lineFeed hbreak, hbreaks]
  rw [newLine, List.length_cons, List.length_replicate, Source.skip_succ, List.length_nil,
    Nat.zero_add]
  rfl

theorem isBare_spec (h : isBare c = true) : c ≠ '"' ∧ c ≠ '\\' ∧ (c ≠ ' ' → isGap c = false) := by
  refine ⟨?_, ?_, fun hspace => ?_⟩
  · rintro rfl
    exact absurd h (by decide)
  · rintro rfl
    exact absurd h (by decide)
  · cases hgap : isGap c with
    | false => rfl
    | true =>
      simp only [isGap, isBreak, Bool.or_eq_true, beq_iff_eq] at hgap
      rcases hgap with (rfl | rfl) | (((rfl | rfl) | rfl) | rfl) | rfl
      · exact absurd rfl hspace
      all_goals exact absurd h (by decide)

theorem startsWord_backslash (t : Text) : StartsWord (.char '\\' :: t) := by
  intro d hd
  obtain rfl : '\\' = d := by simpa using hd
  decide

theorem startsWord_escape (c : Code) (t : Text) : StartsWord (escape c ++ t) := by
  obtain ⟨body, hbody⟩ := exists_escape c
  rw [hbody]
  exact startsWord_backslash _

/-- In double quotes a text that starts with no space does so when it is written. -/
theorem startsWord_escaped (ht : t.head? ≠ some (.char ' ')) :
    StartsWord (escaped indent column fresh first t ++ .char '"' :: after) := by
  intro d hd
  cases t with
  | nil =>
    obtain rfl : '"' = d := by simpa [escaped] using hd
    decide
  | cons c t =>
    have hspace : c ≠ ' ' := by simpa using ht
    rw [escaped] at hd
    split at hd
    · next hbare =>
      split at hd
      · obtain rfl : '\\' = d := by simpa [lineEnd] using hd
        decide
      · obtain rfl : c = d := by simpa using hd
        exact (isBare_spec hbare).2.2 hspace
    · dsimp only at hd
      split at hd
      · rw [List.append_assoc, List.append_assoc] at hd
        exact startsWord_escape c _ d hd
      · rw [List.append_assoc] at hd
        exact startsWord_escape c _ d hd

/-- A space at the start of a line is written as it is, since the line cannot end there. -/
theorem escaped_space (hlast : indent < lastColumn) (t : Text) :
    escaped indent (indent + 1) true false (.char ' ' :: t) =
      .char ' ' :: escaped indent (indent + 2) false false t := by
  rw [escaped, if_pos (by decide), if_neg]
  exact fun h => absurd h.2.2 (by omega)

theorem lineEnd_space (t : Text) :
    lineEnd indent (.char ' ' :: t) = .char '\\' :: newLine indent ++ [Code.char '\\'] := rfl

theorem lineEnd_of_head (ht : t.head? ≠ some (.char ' ')) :
    lineEnd indent t = .char '\\' :: newLine indent := by
  rw [lineEnd, if_neg ht, List.append_nil]

/-- A text in double quotes is read as it was. Spaces in front of what is written of it belong to
it, since those of a line are read at once. -/
theorem readsAs_escaped (start : Mark) (after : Text) (hindent : 0 < indent)
    (hlast : indent < lastColumn) (column : Nat) (fresh first : Bool) (n : Nat) (t : Text) :
    ReadsAs start '"' after (List.replicate n (Code.char ' ') ++
      escaped indent column fresh first t)
      (List.replicate n (Code.char ' ') ++ t) := by
  match t with
  | [] =>
    exact readsAs_spaces (by decide) (startsWord_escaped (by simp))
      (readsAs_nil fun h => absurd h (by decide))
  | c :: t =>
    have ih (column : Nat) (fresh : Bool) :
        ReadsAs start '"' after (escaped indent column fresh false t) t :=
      readsAs_escaped start after hindent hlast column fresh false 0 t
    rw [escaped]
    split
    · next hbare =>
      obtain ⟨hquote, hbackslash, hgap⟩ := isBare_spec hbare
      by_cases hspace : c = ' '
      · subst hspace
        split
        · rw [lineEnd_space, List.append_assoc]
          exact readsAs_spaces (by decide) (startsWord_backslash _)
            (readsAs_newLine hindent (startsWord_backslash _) (readsAs_space (ih _ false)))
        · have hmore := readsAs_escaped start after hindent hlast (column + 1) false false (n + 1) t
          rw [List.replicate_succ', List.append_assoc, List.append_assoc] at hmore
          exact hmore
      · have hchar (column : Nat) :
            ReadsAs start '"' after (c :: escaped indent column false false t) (c :: t) :=
          readsAs_char hquote (hgap hspace) (.inl hbackslash) (ih column false)
        have hword (t : Text) : StartsWord (c :: t) := by
          intro d hd
          obtain rfl : c = d := by simpa using hd
          exact hgap hspace
        split
        · rw [lineEnd_of_head (by simpa using hspace)]
          exact readsAs_spaces (by decide) (startsWord_backslash _)
            (readsAs_newLine hindent (hword _) (hchar _))
        · exact readsAs_spaces (by decide) (hword _) (hchar _)
    · dsimp only
      split
      · rw [List.append_assoc]
        refine readsAs_spaces (by decide) (by rw [List.append_assoc]; exact startsWord_escape c _)
          (readsAs_escape ?_)
        by_cases hhead : t.head? = some (.char ' ')
        · obtain ⟨u, hu⟩ := List.head?_eq_some_iff.1 hhead
          have hlt : u.length < (c :: t).length := by
            rw [hu, List.length_cons, List.length_cons]
            omega
          rw [columnAfterEnd, if_pos hhead, hu, lineEnd_space, escaped_space hlast,
            List.append_assoc]
          exact readsAs_newLine hindent (startsWord_backslash _)
            (readsAs_space (readsAs_escaped start after hindent hlast _ false false 0 u))
        · rw [lineEnd_of_head hhead]
          exact readsAs_newLine hindent (startsWord_escaped hhead) (ih _ true)
      · exact readsAs_spaces (by decide) (by rw [List.append_assoc]; exact startsWord_escape c _)
          (readsAs_escape (ih _ true))
termination_by t.length
decreasing_by
  · exact Nat.lt_succ_self _
  · exact hlt
  · exact Nat.lt_succ_self _

end Double

/-! ## Scalars -/

section Scalars
variable {s : Source} {indent column : Nat}

/-- What is written between quotes is read by the scalar that starts with the first one. -/
theorem ReadsAs.readQuoted (hmore : ReadsAs s.toMark quote after written t)
    (h : s.rest = quote :: (written ++ quote :: after)) :
    readQuoted quote s = .ok (t, s.skip (written.length + 2)) := by
  have hrest : s.next.rest = written ++ quote :: after := by
    rw [Source.rest_next, h]
    rfl
  rw [Yaml.readQuoted, hmore s.next s.rest.length hrest (by rw [hrest, h]; simp)]
  rfl

/-- A text in single quotes is read with its line breaks folded. -/
theorem readQuoted_single (hindent : 0 < indent) (ht : Style.allowsSingle t = true)
    (hafter : after.head? ≠ some (.char '\'')) (h : s.rest = single indent column t ++ after) :
    readQuoted '\'' s = .ok (readSingle t, s.skip (single indent column t).length) := by
  have hrest : s.rest =
      .char '\'' :: (folded indent doubled (column + 1) true (runs t) ++ .char '\'' :: after) := by
    rw [h]
    simp [single]
  rw [(readsAs_folded s.toMark (column + 1) true hindent ht hafter).readQuoted hrest, single,
    List.length_append, List.length_cons]
  rfl

/-- A text in double quotes is read as it was. -/
theorem readQuoted_double (hindent : 0 < indent) (hlast : indent < lastColumn)
    (h : s.rest = double indent column t ++ after) :
    readQuoted '"' s = .ok (t, s.skip (double indent column t).length) := by
  have hrest : s.rest =
      .char '"' :: (escaped indent (column + 1) true true t ++ .char '"' :: after) := by
    rw [h]
    simp [double]
  have hread : ReadsAs s.toMark '"' after (escaped indent (column + 1) true true t) t :=
    readsAs_escaped s.toMark after hindent hlast (column + 1) true true 0 t
  rw [hread.readQuoted hrest, double, List.length_append, List.length_cons]
  rfl

end Scalars

/-! ## Texts -/

/-- What a text that is written as a scalar is read as. -/
def readBack (t : Text) : Text := if Style.ofText t = .single then readSingle t else t

/-- A text is read as it was unless it stands in single quotes and has a next line character. -/
theorem readBack_eq_self_iff : readBack t = t ↔ (Style.ofText t = .single → .char '\x85' ∉ t) := by
  unfold readBack
  split
  · next h => simp [h, readSingle_eq_self_iff]
  · next h => simp [h]

end MarkupNaming.Yaml
