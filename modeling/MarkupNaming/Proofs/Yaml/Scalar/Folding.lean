import Mathlib.Data.List.SplitBy
import MarkupNaming.Proofs.Text.Runs
import MarkupNaming.Yaml.Scalar.Written

/-!
# Folded lines

The runs of a text and the lines on which they are written. A run ends where a character of
another kind follows, so the runs of a text are its first run and the runs of the rest.
-/
namespace MarkupNaming.Yaml.Written
open Text
variable {kind : Kind} {run rest t : Text} {n indent column : Nat} {first : Bool}
  {word : Text → Text}

theorem kind_space : Kind.of ' ' = .space := by decide

theorem kind_eq_other_iff {c : Code} :
    Kind.of c = .other ↔ c ≠ ' ' ∧ Style.isWrittenBreak c = false := by
  unfold Kind.of
  split
  · simp_all
  · split <;> simp_all

theorem kind_eq_breaking_iff {c : Code} :
    Kind.of c = .breaking ↔ Style.isWrittenBreak c = true := by
  unfold Kind.of
  split
  · next h =>
    subst h
    decide
  · split <;> simp_all

theorem isGap_eq_false_iff {c : Code} :
    isGap c = false ↔ c ≠ ' ' ∧ c ≠ '\t' ∧ isBreak c = false := by
  simp [isGap, and_assoc]

/-- Of the characters that are written as they are only spaces and line breaks are gaps. -/
theorem isGap_eq_false_of_isLiteral {c : Code} (h : Style.isLiteral c = true)
    (hkind : Kind.of c = .other) : isGap c = false := by
  obtain ⟨hspace, hbreak⟩ := kind_eq_other_iff.1 hkind
  have hreturn : c ≠ '\r' := by
    rintro rfl
    exact absurd h (by decide)
  have htab : c ≠ '\t' := by
    rintro rfl
    exact absurd h (by decide)
  simp only [Style.isWrittenBreak, Bool.or_eq_false_iff, beq_eq_false_iff_ne] at hbreak
  exact isGap_eq_false_iff.2 ⟨hspace, htab, by simp [isBreak, hbreak, hreturn]⟩

/-! ## Runs -/

theorem runs_append (hne : run ≠ []) (hrun : ∀ c ∈ run, Kind.of c = kind)
    (hrest : ∀ c ∈ rest.head?, Kind.of c ≠ kind) : runs (run ++ rest) = run :: runs rest := by
  have hchain : run.IsChain fun a b => decide (Kind.of a = Kind.of b) = true := by
    clear hne hrest
    induction run with
    | nil => exact .nil
    | cons a run ih =>
      have ha := hrun a List.mem_cons_self
      have htail := ih fun c hc => hrun c (List.mem_cons_of_mem _ hc)
      cases run with
      | nil => exact .singleton a
      | cons b run =>
        refine .cons_cons ?_ htail
        rw [ha, hrun b (by simp)]
        exact decide_eq_true rfl
  have hends : ∀ a ∈ run.getLast?, ∀ b ∈ rest.head?, decide (Kind.of a = Kind.of b) = false := by
    intro a ha b hb
    rw [hrun a (List.mem_of_getLast? ha)]
    exact decide_eq_false (hrest b hb).symm
  rw [runs, List.splitBy_append hends, List.splitBy_of_isChain hne hchain]
  rfl

@[simp] theorem runs_nil : runs [] = [] := rfl

/-- The first run of a text. -/
theorem exists_run (hne : t ≠ []) : ∃ kind run rest, t = run ++ rest ∧ run ≠ [] ∧
    (∀ c ∈ run, Kind.of c = kind) ∧ ∀ c ∈ rest.head?, Kind.of c ≠ kind := by
  obtain ⟨c, t, rfl⟩ := List.exists_cons_of_ne_nil hne
  refine ⟨Kind.of c, (c :: t).takeWhile (Kind.of · = Kind.of c),
    (c :: t).dropWhile (Kind.of · = Kind.of c), List.takeWhile_append_dropWhile.symm, by simp,
    fun d hd => ?_, fun d hd => ?_⟩
  · simpa using forall_mem_takeWhile d hd
  · simpa using startsOutside_dropWhile d hd

/-- Induction along the runs of a text. -/
theorem runs_induction {P : Text → Prop} (nil : P [])
    (run : ∀ kind run rest, run ≠ [] → (∀ c ∈ run, Kind.of c = kind) →
      (∀ c ∈ rest.head?, Kind.of c ≠ kind) → P rest → P (run ++ rest)) (t : Text) : P t := by
  by_cases hne : t = []
  · rwa [hne]
  · obtain ⟨kind, w, rest, ht, hw, hkind, hrest⟩ := exists_run hne
    have hlt : rest.length < t.length := by
      have := List.length_pos_iff.2 hw
      rw [ht, List.length_append]
      omega
    rw [ht]
    exact run kind w rest hw hkind hrest (runs_induction nil run rest)
termination_by t.length
decreasing_by exact hlt

/-! ## Lines -/

@[simp] theorem folded_nil : folded indent word column first [] = [] := rfl

theorem folded_word (hne : run ≠ []) (hrun : ∀ c ∈ run, Kind.of c = .other) (rest : List Text) :
    folded indent word column first (run :: rest) =
      word run ++ folded indent word (column + (word run).length) false rest := by
  obtain ⟨c, run, rfl⟩ := List.exists_cons_of_ne_nil hne
  simp [folded, hrun c List.mem_cons_self]

theorem folded_breaks (hne : run ≠ []) (hrun : ∀ c ∈ run, Kind.of c = .breaking)
    (rest : List Text) : folded indent word column first (run :: rest) =
      breaks run ++ List.replicate indent (Code.char ' ') ++
        folded indent word indent false rest := by
  obtain ⟨c, run, rfl⟩ := List.exists_cons_of_ne_nil hne
  simp [folded, hrun c List.mem_cons_self]

theorem folded_spaces (hpos : 0 < n) (rest : List Text) :
    folded indent word column first (List.replicate n (Code.char ' ') :: rest) =
      if n = 1 ∧ lastColumn < column ∧ first = false ∧ rest ≠ [] then
        newLine indent ++ folded indent word indent false rest
      else List.replicate n (Code.char ' ') ++ folded indent word (column + n) false rest := by
  obtain ⟨n, rfl⟩ : ∃ m, n = m + 1 := ⟨n - 1, by omega⟩
  have hone : List.replicate (n + 1) (Code.char ' ') = ([.char ' '] : Text) ↔ n + 1 = 1 := by
    rw [List.replicate_succ, List.cons.injEq, List.replicate_eq_nil_iff]
    simp
  rw [folded]
  simp only [List.replicate_succ, List.head?_cons, Option.map_some, kind_space] at hone ⊢
  simp only [hone, List.length_cons, List.length_replicate]

theorem eq_space_of_kind {c : Code} (h : Kind.of c = .space) : c = ' ' := by
  unfold Kind.of at h
  split at h
  · assumption
  · split at h <;> cases h

theorem eq_replicate_of_kind (hrun : ∀ c ∈ run, Kind.of c = .space) :
    run = List.replicate run.length (Code.char ' ') :=
  List.eq_replicate_iff.2 ⟨rfl, fun c hc => eq_space_of_kind (hrun c hc)⟩

end MarkupNaming.Yaml.Written
