import Mathlib.Logic.Relation
import MarkupNaming.Proofs.Yaml.Scalar.Plain
import MarkupNaming.Yaml.Tokens

/-!
# From token to token

How a reading comes to its next token. Between two lines only the indentations of the open blocks
matter; a line that is indented less than a block closes it.
-/
namespace MarkupNaming.Yaml
open Text Written

namespace Reading
variable {r s next : Reading} {t : Text} {k : Nat}

/-! ## The place of the next token -/

/-- The reading at its next token: without the possible keys of former lines, and with the blocks
closed that the token does not belong to. -/
def settle (r : Reading) : Except Fault Reading := do
  let r ← (skipToToken r.source.rest.length r).dropStale
  return r.unwind r.source.column

theorem settle_eq_ok_iff : r.settle = .ok s ↔
    ∃ kept, (skipToToken r.source.rest.length r).dropStale = .ok kept ∧
      kept.unwind kept.source.column = s := by
  unfold settle
  cases (skipToToken r.source.rest.length r).dropStale with
  | error fault => simp [bind, Except.bind]
  | ok kept => simp [bind, Except.bind, pure, Except.pure]

/-- A step depends on the reading at its next token only. -/
theorem step_congr (hr : r.settle = .ok s) (hs : s.settle = .ok s) : r.step = s.step := by
  obtain ⟨kept, hkept, hunwind⟩ := settle_eq_ok_iff.1 hr
  obtain ⟨same, hsame, hunwind'⟩ := settle_eq_ok_iff.1 hs
  unfold step
  rw [hkept, hsame]
  simp only [bind, Except.bind, hunwind, hunwind']

/-- A text that starts with a token. -/
def StartsToken (t : Text) : Prop := ∀ c ∈ t.head?, c ≠ ' ' ∧ c ≠ '#' ∧ isBreak c = false

theorem startsToken_cons {c : Code} (hc : c ≠ ' ' ∧ c ≠ '#' ∧ isBreak c = false) (t : Text) :
    StartsToken (c :: t) := by
  intro d hd
  obtain rfl : c = d := by simpa using hd
  exact hc

theorem startsToken_of_startsLine (ht : StartsLine t) : StartsToken t := fun c hc =>
  have hgap := isGap_eq_false_iff.1 (ht c hc).1
  ⟨hgap.1, (ht c hc).2.1, hgap.2.2⟩

theorem StartsToken.skipSpaces (ht : StartsToken t)
    (h : r.source.rest = List.replicate k (Code.char ' ') ++ t) :
    r.source.skipSpaces.skipComment = r.source.skip k ∧ (r.source.skip k).lineBreak? = none := by
  have hrest : (r.source.skip k).rest = t := by
    rw [Source.rest_skip, h, List.drop_left' (List.length_replicate ..)]
  have hspaces : r.source.skipSpaces = r.source.skip k :=
    Source.skipSpaces_eq h fun hc => (ht ' ' hc).1 rfl
  refine ⟨?_, Source.lineBreak?_of_not_break fun c hc => (ht c (hrest ▸ hc)).2.2⟩
  rw [hspaces, Source.skipComment, if_neg]
  rw [hrest]
  exact fun hc => (ht '#' hc).2.1 rfl

theorem skipToToken_spaces (fuel : Nat) (h : r.source.rest = List.replicate k (Code.char ' ') ++ t)
    (ht : StartsToken t) (hfuel : k + t.length ≤ fuel) :
    skipToToken fuel r = r.moveTo (r.source.skip k) := by
  obtain ⟨hskip, hbreak⟩ := ht.skipSpaces h
  cases fuel with
  | zero =>
    obtain rfl : k = 0 := by omega
    rfl
  | succ fuel =>
    rw [skipToToken, hskip, hbreak]

theorem skipToToken_line (h : r.source.rest = .char '\n' :: (List.replicate k (Code.char ' ') ++ t))
    (ht : StartsToken t) : skipToToken r.source.rest.length r =
      { r with source := r.source.skip (k + 1), keyAllowed := r.keyAllowed || !r.inFlow } := by
  have hspaces : r.source.skipSpaces = r.source := Source.skipSpaces_eq (n := 0) h (by simp)
  have hcomment : r.source.skipComment = r.source := by
    rw [Source.skipComment, if_neg]
    rw [h]
    exact fun hc => absurd hc (by simp)
  rw [h, List.length_cons, skipToToken, hspaces, hcomment, Source.lineBreak?_lineFeed h]
  have hnext : r.source.next.rest = List.replicate k (Code.char ' ') ++ t := by
    rw [Source.rest_next, h]
    rfl
  exact skipToToken_spaces _ hnext ht (by simp)

/-! ## Possible keys -/

theorem dropKeys_of_keys (p : PossibleKey → Bool) (h : r.keys = []) : r.dropKeys p = .ok r := by
  obtain ⟨source, tokens, level, indent, outer, keyAllowed, keys, isDone⟩ := r
  obtain rfl : keys = [] := h
  rfl

/-- The keys of former lines are forgotten. -/
theorem dropStale_of_former
    (h : ∀ key ∈ r.keys, key.isRequired = false ∧ key.line < r.source.line) :
    r.dropStale = .ok { r with keys := [] } := by
  have hrequired : r.keys.find? (fun key => r.isStale key && key.isRequired) = none :=
    List.find?_eq_none.2 fun key hkey => by simp [(h key hkey).1]
  have hstale : r.keys.filter (!r.isStale ·) = [] :=
    List.filter_eq_nil_iff.2 fun key hkey => by
      have := (h key hkey).2
      simp [isStale, Nat.ne_of_lt this]
  rw [dropStale, dropKeys, hrequired, hstale]

/-- The keys of the line are kept. -/
theorem dropStale_of_fresh (h : ∀ key ∈ r.keys, r.isStale key = false) : r.dropStale = .ok r := by
  have hrequired : r.keys.find? (fun key => r.isStale key && key.isRequired) = none :=
    List.find?_eq_none.2 fun key hkey => by simp [h key hkey]
  have hkeep : r.keys.filter (!r.isStale ·) = r.keys :=
    List.filter_eq_self.2 fun key hkey => by simp [h key hkey]
  rw [dropStale, dropKeys, hrequired, hkeep]

/-- Keys that are not required are forgotten or not. -/
theorem exists_dropStale (h : ∀ key ∈ r.keys, key.isRequired = false) :
    ∃ keys ⊆ r.keys, r.dropStale = .ok { r with keys := keys } := by
  have hrequired : r.keys.find? (fun key => r.isStale key && key.isRequired) = none :=
    List.find?_eq_none.2 fun key hkey => by simp [h key hkey]
  refine ⟨r.keys.filter (!r.isStale ·), List.filter_sublist.subset, ?_⟩
  rw [dropStale, dropKeys, hrequired]

/-! ## Standing at a token -/

/-- What is known of a reading that stands somewhere in a text: what is left of it, the open
blocks and the tokens so far. -/
structure Stands (r : Reading) (keyAllowed : Bool) (tokens : List Token) (stack : List Int)
    (column : Nat) (t : Text) : Prop where
  rest : r.source.rest = t
  column : r.source.column = column
  level : r.level = 0
  keys : r.keys = []
  keyAllowed : r.keyAllowed = keyAllowed
  isDone : r.isDone = false
  stack : r.indent :: r.outer = stack
  tokens : r.tokens.reverse.map (·.token) = tokens

/-- A reading somewhere in front of a token at the start of a line part. The token closes some
blocks in front of `stack`, and the tokens count as if they were closed already. -/
def Before (r : Reading) (tokens : List Token) (stack : List Int) (column : Nat) (t : Text) :
    Prop :=
  t.length ≤ r.source.rest.length ∧
    ∃ s pending former, (skipToToken r.source.rest.length r).dropStale = .ok s ∧
      s.Stands true former (pending ++ stack) column t ∧ (∀ c ∈ pending, (column : Int) < c) ∧
        former ++ pending.map (fun _ => .blockEnd) = tokens

section Standing
variable {allowed : Bool} {tokens : List Token} {stack outer : List Int} {top : Int} {column : Nat}

theorem unwind_of_stands {pending : List Int} {former : List Token} {least : Int}
    (hs : s.Stands allowed former (pending ++ top :: outer) column t)
    (hpending : ∀ c ∈ pending, least < c) (htop : top ≤ least) :
    (s.unwind least).Stands allowed (former ++ pending.map fun _ => .blockEnd)
      (top :: outer) column t := by
  have hflow : s.inFlow = false := by simp [inFlow, hs.level]
  have hclosed : (s.indent :: s.outer).takeWhile (fun c => decide (least < c)) = pending := by
    rw [hs.stack, List.takeWhile_append_of_pos fun c hc => by simpa using hpending c hc,
      List.takeWhile_cons_of_neg (by simpa using htop), List.append_nil]
  have hleft : (s.indent :: s.outer).drop pending.length = top :: outer := by
    rw [hs.stack, List.drop_left]
  have hunwind : s.unwind least = { s with
      indent := top
      outer := outer
      tokens := pending.map (fun _ => ⟨.blockEnd, s.source.toMark⟩) ++ s.tokens } := by
    rw [unwind, hflow]
    simp only [hclosed, hleft]
    rfl
  rw [hunwind]
  refine ⟨hs.rest, hs.column, hs.level, hs.keys, hs.keyAllowed, hs.isDone, rfl, ?_⟩
  rw [List.reverse_append, List.map_append, hs.tokens]
  simp [List.map_const', List.reverse_replicate]

/-- A block that the next token is not indented enough for is closed. -/
theorem Before.close (h : r.Before tokens (top :: outer) column t) (htop : (column : Int) < top) :
    r.Before (tokens ++ [Token.blockEnd]) outer column t := by
  obtain ⟨hle, s, pending, former, hskip, hs, hpending, rfl⟩ := h
  refine ⟨hle, s, pending ++ [top], former, hskip, ?_, ?_, ?_⟩
  · rwa [List.append_assoc]
  · simpa [or_imp, forall_and] using ⟨hpending, htop⟩
  · rw [List.map_append, List.append_assoc]
    rfl

theorem unwind_of_le {column : Int} (h : r.indent ≤ column) : r.unwind column = r := by
  have hclosed : (r.indent :: r.outer).takeWhile (fun c => decide (column < c)) = [] :=
    List.takeWhile_cons_of_neg (by simpa using h)
  unfold unwind
  split
  · rfl
  · simp only [hclosed]
    rfl

/-- A reading at a token, without keys of former lines, settles where it stands. -/
theorem settle_eq_self (hkept : r.dropStale = .ok r) (h : r.source.rest = t) (ht : StartsToken t)
    (hle : r.indent ≤ r.source.column) : r.settle = .ok r := by
  refine settle_eq_ok_iff.2 ⟨r, ?_, unwind_of_le hle⟩
  rw [skipToToken_spaces (k := 0) _ h ht (by simp [h])]
  exact hkept

theorem Stands.indent (hs : s.Stands allowed tokens (top :: outer) column t) : s.indent = top :=
  (List.cons.inj hs.stack).1

/-- A reading in front of spaces settles behind them. -/
theorem Stands.settle_spaces (hr : r.Stands allowed tokens (top :: outer) column
    (List.replicate k (Code.char ' ') ++ t)) (ht : StartsToken t) (htop : top ≤ column) :
    r.settle = .ok (r.moveTo (r.source.skip k)) := by
  have hskip := skipToToken_spaces r.source.rest.length hr.rest ht (by rw [hr.rest]; simp)
  have hcolumn : (r.source.skip k).column = column + k := by
    rw [Source.skip_spaces hr.rest, hr.column]
  refine settle_eq_ok_iff.2 ⟨_, ?_, unwind_of_le ?_⟩
  · rw [hskip]
    exact dropKeys_of_keys _ hr.keys
  · have hindent : (r.moveTo (r.source.skip k)).indent = top := hr.indent
    have hmoved : (r.moveTo (r.source.skip k)).source.column = column + k := hcolumn
    rw [hindent, hmoved]
    omega

/-- A reading that stands at a token settles there. -/
theorem Stands.settle (hs : s.Stands allowed tokens (top :: outer) column t) (ht : StartsToken t)
    (htop : top ≤ column) : s.settle = .ok s :=
  hs.settle_spaces (k := 0) ht htop

/-! ## From one line to the next -/

/-- What a reading carries from one line to the next. None of its keys is required, so that they
are forgotten when their line ends. -/
structure Carries (r : Reading) (tokens : List Token) (stack : List Int) : Prop where
  level : r.level = 0
  isDone : r.isDone = false
  stack : r.indent :: r.outer = stack
  tokens : r.tokens.reverse.map (·.token) = tokens
  keys : ∀ key ∈ r.keys, key.isRequired = false ∧ key.line ≤ r.source.line

theorem Stands.carries (hr : r.Stands allowed tokens stack column t) : r.Carries tokens stack :=
  ⟨hr.level, hr.isDone, hr.stack, hr.tokens, by simp [hr.keys]⟩

theorem Carries.before_of_line (hr : r.Carries tokens stack)
    (h : r.source.rest = .char '\n' :: (List.replicate k (Code.char ' ') ++ t))
    (ht : StartsToken t) :
    r.Before tokens stack k t := by
  obtain ⟨hrest, hcolumn, hline⟩ := Source.skip_line (w := []) h
  rw [List.length_nil, Nat.zero_add] at hrest hcolumn hline
  have hkept : (skipToToken r.source.rest.length r).dropStale = .ok { r with
      source := r.source.skip (k + 1), keyAllowed := r.keyAllowed || !r.inFlow, keys := [] } := by
    rw [skipToToken_line h ht]
    exact dropStale_of_former fun key hkey =>
      ⟨(hr.keys key hkey).1, Nat.lt_of_le_of_lt (hr.keys key hkey).2 hline⟩
  refine ⟨by rw [h]; simp; omega, _, [], tokens, hkept, ?_, by simp, by simp⟩
  refine ⟨hrest, hcolumn, hr.level, rfl, ?_, hr.isDone, hr.stack, hr.tokens⟩
  simp [inFlow, hr.level]

theorem Carries.before_of_spaces (hr : r.Carries tokens stack)
    (hkeys : ∀ key ∈ r.keys, key.line < r.source.line)
    (h : r.source.rest = List.replicate k (Code.char ' ') ++ t) (ht : StartsToken t)
    (hallowed : r.keyAllowed = true) : r.Before tokens stack (r.source.column + k) t := by
  have hspaces := Source.skip_spaces h
  have hkept : (skipToToken r.source.rest.length r).dropStale =
      .ok { r.moveTo (r.source.skip k) with keys := [] } := by
    rw [skipToToken_spaces _ h ht (by rw [h]; simp)]
    refine dropStale_of_former fun key hkey => ⟨(hr.keys key hkey).1, ?_⟩
    have hline : (r.moveTo (r.source.skip k)).source.line = r.source.line := by
      rw [moveTo, hspaces]
    rw [hline]
    exact hkeys key hkey
  have hcolumn : (r.source.skip k).column = r.source.column + k := by rw [hspaces]
  exact ⟨by rw [h]; simp, _, [], tokens, hkept, ⟨congrArg Source.rest hspaces, hcolumn, hr.level,
    rfl, hallowed, hr.isDone, hr.stack, hr.tokens⟩, by simp, by simp⟩

end Standing

/-! ## Runs -/

/-- A step that leads to another reading, with some of the text behind it. -/
def Advances (r s : Reading) : Prop :=
  ∃ next, r.step = .ok next ∧ next.isDone = false ∧ next.dropStale = .ok s ∧
    s.source.rest.length < r.source.rest.length

/-- One or more steps. -/
def Runs : Reading → Reading → Prop := Relation.TransGen Advances

theorem runs_of_step (hstep : r.step = .ok next) (hdone : next.isDone = false)
    (hkept : next.dropStale = .ok s) (hlt : s.source.rest.length < r.source.rest.length) :
    r.Runs s := .single ⟨next, hstep, hdone, hkept, hlt⟩

/-- A reading runs as it does from its next token on. -/
theorem Runs.of_settle (hrun : s.Runs next) (hr : r.settle = .ok s) (hs : s.settle = .ok s)
    (hle : s.source.rest.length ≤ r.source.rest.length) : r.Runs next := by
  obtain ⟨first, ⟨taken, hstep, hdone, hkept, hlt⟩, hrun⟩ := Relation.TransGen.head'_iff.1 hrun
  exact .head' ⟨taken, (step_congr hr hs).trans hstep, hdone, hkept, by omega⟩ hrun

/-- The tokens from a reading on are those from a later one on. -/
theorem Runs.exists_read (h : r.Runs s) {fuel : Nat} (hfuel : r.source.rest.length < fuel) :
    ∃ fuel', s.source.rest.length < fuel' ∧ Tokens.read fuel r = Tokens.read fuel' s := by
  have hadvance {r s : Reading} (h : r.Advances s) {fuel : Nat}
      (hfuel : r.source.rest.length < fuel) :
      ∃ fuel', s.source.rest.length < fuel' ∧ Tokens.read fuel r = Tokens.read fuel' s := by
    obtain ⟨next, hstep, hdone, hkept, hlt⟩ := h
    obtain ⟨fuel, rfl⟩ : ∃ f, fuel = f + 1 := ⟨fuel - 1, by omega⟩
    refine ⟨fuel, by omega, ?_⟩
    rw [Tokens.read, hstep]
    simp only [hdone, hkept]
    rfl
  induction h with
  | single h => exact hadvance h hfuel
  | tail _ h ih =>
    obtain ⟨fuel', hfuel', hread⟩ := ih
    obtain ⟨fuel'', hfuel'', hread'⟩ := hadvance h hfuel'
    exact ⟨fuel'', hfuel'', hread.trans hread'⟩

section Settling
variable {allowed : Bool} {tokens : List Token} {outer : List Int} {top : Int} {column : Nat}
  {P : Reading → Prop}

/-- In front of a token, which closes the blocks that it does not belong to, a reading runs as it
does at the token. -/
theorem Before.exists_runs (h : r.Before tokens (top :: outer) column t) (htop : top ≤ column)
    (ht : StartsToken t) (hrun : ∀ s : Reading, s.Stands true tokens (top :: outer) column t →
      ∃ next, s.Runs next ∧ P next) : ∃ next, r.Runs next ∧ P next := by
  obtain ⟨hle, s, pending, former, hskip, hs, hpending, rfl⟩ := h
  have hsettle : r.settle = .ok (s.unwind column) :=
    settle_eq_ok_iff.2 ⟨s, hskip, by rw [hs.column]⟩
  have hstands := unwind_of_stands hs hpending htop
  obtain ⟨next, hnext, hP⟩ := hrun _ hstands
  exact ⟨next, hnext.of_settle hsettle (hstands.settle ht htop)
    (by rwa [hstands.rest]), hP⟩

/-- In front of spaces a reading runs as it does behind them. -/
theorem Stands.exists_runs (hr : r.Stands allowed tokens (top :: outer) column
    (List.replicate k (Code.char ' ') ++ t)) (htop : top ≤ column) (ht : StartsToken t)
    (hrun : ∀ s : Reading, s.Stands allowed tokens (top :: outer) (column + k) t →
      ∃ next, s.Runs next ∧ P next) : ∃ next, r.Runs next ∧ P next := by
  have hskip := Source.skip_spaces hr.rest
  have hstands : (r.moveTo (r.source.skip k)).Stands allowed tokens (top :: outer) (column + k) t :=
    ⟨congrArg Source.rest hskip, by rw [moveTo, hskip, hr.column], hr.level, hr.keys,
      hr.keyAllowed, hr.isDone, hr.stack, hr.tokens⟩
  obtain ⟨next, hnext, hP⟩ := hrun _ hstands
  refine ⟨next, hnext.of_settle (hr.settle_spaces ht htop)
    (hstands.settle ht (by omega)) ?_, hP⟩
  rw [hstands.rest, hr.rest, List.length_append]
  omega

end Settling

end Reading
end MarkupNaming.Yaml
