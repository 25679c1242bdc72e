import MarkupNaming.Proofs.Yaml.Scalar.Escape
import MarkupNaming.Proofs.Yaml.Scalar.Folding

/-!
# Characters of written scalars

A written scalar has only characters that are written as they are, so that a text with it may be
read again.
-/
namespace MarkupNaming.Yaml
open Text Written

namespace Style
variable {c : Code}

theorem isAllowed_of_isLiteral (h : isLiteral c = true) : isAllowed c = true := by
  simp only [isLiteral, Bool.or_eq_true, beq_iff_eq] at h
  obtain ((((rfl | h) | rfl) | h) | h) | h := h
  · decide
  · simp_all [isAllowed]
  · decide
  all_goals
    simp only [isAllowed, Bool.and_eq_true, Bool.or_eq_true, decide_eq_true_eq, beq_iff_eq] at h ⊢
    omega

theorem ne_return_of_isLiteral (h : isLiteral c = true) : c ≠ '\r' := by
  rintro rfl
  exact absurd h (by decide)

theorem isSurrogate_of_isLiteral (h : isLiteral c = true) : c.isSurrogate = false := by
  cases c with
  | char c => rfl
  | surrogate n =>
    have hn := n.isLt
    simp only [isLiteral, Bool.or_eq_true, Bool.and_eq_true, beq_iff_eq, bne_iff_ne, reduceCtorEq,
      false_or, or_false, decide_eq_true_eq] at h
    simp only [Code.toNat_surrogate] at h
    omega

theorem isLiteral_of_ascii (h : 0x20 ≤ c.toNat ∧ c.toNat ≤ 0x7E) : isLiteral c = true := by
  simp [isLiteral, h]

theorem ofText_eq_plain_iff {t : Text} : ofText t = .plain ↔ allowsPlain t = true := by
  unfold ofText
  split
  · simp_all
  · split <;> simp_all

theorem allowsSingle_of_ofText {t : Text} (h : ofText t = .single) : allowsSingle t = true := by
  unfold ofText at h
  split at h
  · cases h
  · split at h
    · assumption
    · cases h

/-- A text that stands without quotes has no other kind by its form. -/
theorem impliedTag_of_ofText {t : Text} (h : ofText t = .plain) : impliedTag t = .text := by
  have hallows := ofText_eq_plain_iff.1 h
  cases t with
  | nil => cases hallows
  | cons c t =>
    simp only [allowsPlain, Bool.and_eq_true, beq_iff_eq] at hallows
    exact hallows.2

theorem all_isLiteral_of_allowsPlain {t : Text} (h : allowsPlain t = true) :
    t.all isLiteral = true := by
  cases t with
  | nil => rfl
  | cons c t =>
    simp only [allowsPlain, Bool.and_eq_true, List.all_eq_true] at h
    exact List.all_eq_true.2 fun d hd => (h.1.2 d hd).1

end Style

namespace Written
variable {t run : Text} {indent column : Nat} {fresh first : Bool} {word : Text → Text}

theorem all_isLiteral_replicate (n : Nat) :
    (List.replicate n (Code.char ' ')).all Style.isLiteral = true := by
  rw [List.all_replicate]
  split <;> rfl

theorem all_isLiteral_newLine (indent : Nat) : (newLine indent).all Style.isLiteral = true := by
  rw [newLine, List.all_cons, all_isLiteral_replicate]
  rfl

theorem all_isLiteral_breaks (h : run.all Style.isLiteral = true) :
    (breaks run).all Style.isLiteral = true := by
  unfold breaks
  split
  · rw [List.all_cons, h]
    rfl
  · exact h

/-- Runs that are written word by word keep their characters. -/
theorem all_isLiteral_folded {parts : List Text}
    (hparts : ∀ run ∈ parts, run.all Style.isLiteral = true)
    (hword : ∀ run : Text, run.all Style.isLiteral = true → (word run).all Style.isLiteral = true) :
    (folded indent word column first parts).all Style.isLiteral = true := by
  induction parts generalizing column first with
  | nil => rfl
  | cons run rest ih =>
    obtain ⟨hrun, hrest⟩ := List.forall_mem_cons.1 hparts
    have hfolded (column : Nat) :
        (folded indent word column false rest).all Style.isLiteral = true := ih hrest
    unfold folded
    split
    · simp only [List.all_append, all_isLiteral_breaks hrun, all_isLiteral_replicate, hfolded,
        Bool.and_self]
    · simp only [List.all_append, hword run hrun, hfolded, Bool.and_self]
    · split
      · simp only [List.all_append, all_isLiteral_newLine, hfolded, Bool.and_self]
      · simp only [List.all_append, hrun, hfolded, Bool.and_self]

theorem all_isLiteral_of_mem_runs (h : t.all Style.isLiteral = true) :
    ∀ run ∈ runs t, run.all Style.isLiteral = true := by
  intro run hrun
  refine List.all_eq_true.2 fun c hc => ?_
  have hmem : c ∈ t := by
    rw [← List.flatten_splitBy (fun a b => decide (Kind.of a = Kind.of b)) t]
    exact List.mem_flatten.2 ⟨run, hrun, hc⟩
  exact List.all_eq_true.1 h c hmem

theorem all_isLiteral_doubled (h : t.all Style.isLiteral = true) :
    (doubled t).all Style.isLiteral = true := by
  refine List.all_eq_true.2 fun d hd => ?_
  obtain ⟨c, hc, hd⟩ := List.mem_flatMap.1 hd
  have hc := List.all_eq_true.1 h c hc
  split at hd
  · have : d = '\'' := by simpa using hd
    subst this
    decide
  · rwa [List.mem_singleton.1 hd]

/-! ## Double quotes -/

theorem all_isLiteral_digitsOf (n : Nat) :
    ((digitsOf 16 n).map Code.toUpper).all Style.isLiteral = true := by
  have hdigit : ∀ d < 16, Style.isLiteral (Code.toUpper (Nat.digitChar d)) = true := by decide
  induction n using Nat.strongRecOn with
  | ind n ih =>
    by_cases hlt : n < 16
    · rw [digitsOf, Nat.toDigits_of_lt_base hlt]
      simp [hdigit n hlt]
    · rw [digitsOf, Nat.toDigits_of_base_le (by decide) (by omega), List.map_append,
        List.map_append, List.all_append, ← digitsOf, ih (n / 16) (by omega)]
      simp [hdigit (n % 16) (Nat.mod_lt _ (by decide))]

theorem all_isLiteral_hexDigits (width n : Nat) :
    ((hexDigits width n).map Code.toUpper).all Style.isLiteral = true := by
  have hzero : Style.isLiteral (Code.toUpper '0') = true := by decide
  rw [hexDigits, List.map_append, List.all_append, all_isLiteral_digitsOf, List.map_replicate,
    List.all_replicate, hzero]
  split <;> rfl

theorem all_isLiteral_escape (c : Code) : (escape c).all Style.isLiteral = true := by
  have hbackslash : Style.isLiteral '\\' = true := by decide
  unfold escape
  split
  · next letter hletter =>
    have htable : ∀ p ∈ escapeLetters, Style.isLiteral p.2 = true := by decide
    simp [hbackslash, htable _ (mem_of_lookup hletter)]
  · obtain ⟨letter, width, hcode, -, hwidth, -⟩ := exists_codeEscape c
    have htable : ∀ p ∈ ([('x', 2), ('u', 4), ('U', 8)] : List (Code × Nat)), Style.isLiteral p.1 =
        true := by decide
    rw [hcode, List.all_cons, List.all_cons, hbackslash, htable _ (mem_of_lookup hwidth),
      all_isLiteral_hexDigits]
    rfl

theorem isLiteral_of_isBare {c : Code} (h : isBare c = true) : Style.isLiteral c = true := by
  simp only [isBare, Style.isLiteral, Bool.or_eq_true, Bool.and_eq_true, decide_eq_true_eq,
    beq_iff_eq, bne_iff_ne] at h ⊢
  omega

theorem all_isLiteral_lineEnd (indent : Nat) (rest : Text) :
    (lineEnd indent rest).all Style.isLiteral = true := by
  unfold lineEnd
  rw [List.cons_append, List.all_cons, List.all_append, all_isLiteral_newLine]
  split <;> decide

theorem all_isLiteral_escaped :
    (escaped indent column fresh first t).all Style.isLiteral = true := by
  induction t generalizing column fresh first with
  | nil => rfl
  | cons c t ih =>
    unfold escaped
    simp only
    split
    · next hbare =>
      have hc := isLiteral_of_isBare hbare
      split
      · simp only [List.all_append, List.all_cons, all_isLiteral_lineEnd, hc, ih, Bool.and_self]
      · simp only [List.all_cons, hc, ih, Bool.and_self]
    · split
      · simp only [List.all_append, all_isLiteral_escape, all_isLiteral_lineEnd, ih, Bool.and_self]
      · simp only [List.all_append, all_isLiteral_escape, ih, Bool.and_self]

end Written

/-- All characters of a written text are written as they are. -/
theorem all_isLiteral_writtenText (indent column : Nat) (t : Text) :
    (writtenText indent column t).all Style.isLiteral = true := by
  have hquotes : Style.isLiteral '\'' = true ∧ Style.isLiteral '"' = true := by decide
  cases hstyle : Style.ofText t with
  | plain =>
    have ht := Style.all_isLiteral_of_allowsPlain (Style.ofText_eq_plain_iff.1 hstyle)
    rw [writtenText, hstyle]
    exact all_isLiteral_folded (all_isLiteral_of_mem_runs ht) fun _ hrun => hrun
  | single =>
    have ht := Style.allowsSingle_of_ofText hstyle
    simp only [Style.allowsSingle, Bool.and_eq_true] at ht
    have hfolded : (folded indent doubled (column + 1) true (runs t)).all Style.isLiteral = true :=
      all_isLiteral_folded (all_isLiteral_of_mem_runs ht.1.1) fun _ => all_isLiteral_doubled
    rw [writtenText, hstyle]
    simp [Written.single, hquotes, hfolded]
  | double =>
    rw [writtenText, hstyle]
    simp [Written.double, hquotes, all_isLiteral_escaped]

end MarkupNaming.Yaml
