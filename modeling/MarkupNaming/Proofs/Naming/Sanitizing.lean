import MarkupNaming.Naming.Segment
import MarkupNaming.Proofs.Text.Characters

/-!
# Tokens

What cleaning makes of a text. A token has only characters that stand unescaped in the name of a
class, and cleaning makes a token of every text and leaves tokens as they are. A token is never
longer than its text: some characters have a longer lowercase, but at most one character of it is
kept, and a run of blanks leaves one hyphen.
-/
namespace MarkupNaming.Naming
open Text
variable {t : Text} {c : Code}

/-- The characters of tokens. -/
def tokenAlphabet : Text := "abcdefghijklmnopqrstuvwxyz0123456789-_"

/-- Whether a text has characters of tokens only. -/
def IsToken (t : Text) : Prop := ∀ c ∈ t, c ∈ tokenAlphabet

/-! ## Characters of tokens -/

theorem toNat_lt_of_isTokenChar (h : isTokenChar c = true) : c.toNat < 128 := by
  simp only [isTokenChar, isAsciiDigit, Bool.or_eq_true, Bool.and_eq_true,
    decide_eq_true_eq, beq_iff_eq] at h
  rcases h with ((⟨-, h⟩ | ⟨-, h⟩) | rfl) | rfl
  · exact Nat.lt_of_le_of_lt (Code.le_iff_toNat_le.1 h) (by decide)
  · exact Nat.lt_of_le_of_lt (Code.le_iff_toNat_le.1 h) (by decide)
  · decide
  · decide

/-- What holds of the tokens among the ASCII characters holds of all characters of tokens. -/
theorem forall_isTokenChar {p : Code → Prop}
    (h : ∀ n < 128, isTokenChar (Code.ofNat n) = true → p (Code.ofNat n))
    (hc : isTokenChar c = true) : p c :=
  forall_ascii (p := fun c => isTokenChar c = true → p c) h (toNat_lt_of_isTokenChar hc) hc

theorem isTokenChar_iff : isTokenChar c = true ↔ c ∈ tokenAlphabet := by
  constructor
  · intro h
    exact forall_isTokenChar (p := (· ∈ tokenAlphabet)) (by decide) h
  · intro h
    have hall : tokenAlphabet.all isTokenChar = true := by decide
    exact List.all_eq_true.1 hall c h

theorem isPlain_of_isTokenChar (h : isTokenChar c = true) : isPlain c = true :=
  forall_isTokenChar (p := fun c => isPlain c = true) (by decide) h

theorem isPlain_of_mem_sanitize (h : c ∈ sanitize t) : isPlain c = true :=
  isPlain_of_isTokenChar (List.mem_filter.1 h).2

/-! ## Cleaning a token -/

theorem lower_eq_self (h : IsToken t) : lower t = t := by
  apply lowerAfter_eq_self
  intro c hc
  exact forall_isTokenChar (p := fun c => c ≠ .char 'Σ' ∧ lowerChar c = [c]) (by decide)
    (isTokenChar_iff.2 (h c hc))

theorem collapseBlanks_eq_self {mark : Code} (h : ∀ c ∈ t, isBlank c = false) :
    collapseBlanks mark t = t := by
  induction t with
  | nil => rfl
  | cons c t ih =>
    obtain ⟨hc, ht⟩ := List.forall_mem_cons.1 h
    rw [collapseBlanks.eq_def]
    simp only [hc, Bool.false_eq_true, if_false, ih ht]

theorem isToken_sanitize (t : Text) : IsToken (sanitize t) := by
  intro c hc
  exact isTokenChar_iff.1 (List.mem_filter.1 hc).2

theorem sanitize_eq_self (h : IsToken t) : sanitize t = t := by
  have htoken : ∀ c ∈ t, isTokenChar c = true := by
    intro c hc
    exact isTokenChar_iff.2 (h c hc)
  have hblank : ∀ c ∈ t, isBlank c = false := by
    intro c hc
    exact forall_isTokenChar (p := fun c => isBlank c = false) (by decide) (htoken c hc)
  rw [sanitize, lower_eq_self h, collapseBlanks_eq_self hblank, List.filter_eq_self]
  exact htoken

theorem sanitize_eq_self_iff : sanitize t = t ↔ IsToken t :=
  ⟨fun h => h ▸ isToken_sanitize t, sanitize_eq_self⟩

/-! ## The length of a token -/

/-- A character of a lowercase that is kept or may leave a hyphen. -/
def leavesTrace (c : Code) : Bool := isTokenChar c || isBlank c

/-- One character at most of a lowercase leaves a trace: the dotted capital I brings a combining
dot, which does not, and all other lowercases are single characters. -/
theorem countP_lowerChar_le (c : Code) : (lowerChar c).countP leavesTrace ≤ 1 := by
  have hsingle (d : Code) : [d].countP leavesTrace ≤ 1 := List.countP_le_length
  by_cases hc : c.toNat < 128
  · rw [lowerChar, if_pos hc]
    exact hsingle _
  · rcases lowerChar_cases (c := c) (by omega) with heq | ⟨run, -, -, heq⟩ | heq
    · rw [heq]
      decide
    · rw [heq]
      exact hsingle _
    · rw [heq]
      exact hsingle _

theorem countP_lowerAfter_le (before t : Text) :
    (lowerAfter before t).countP leavesTrace ≤ t.length := by
  induction t generalizing before with
  | nil => exact Nat.le_refl _
  | cons c rest ih =>
    have hfirst : (if c = 'Σ' then
        (if startsCased before && !startsCased rest then [.char 'ς'] else [.char 'σ'])
        else lowerChar c).countP leavesTrace ≤ 1 := by
      split
      · split <;> exact List.countP_le_length
      · exact countP_lowerChar_le c
    have hrest := ih (c :: before)
    rw [lowerAfter, List.countP_append, List.length_cons]
    omega

/-- A character without a trace is dropped, and a run of blanks leaves one hyphen. -/
theorem length_filter_collapseBlanks_le (t : Text) :
    ((collapseBlanks '-' t).filter isTokenChar).length ≤ t.countP leavesTrace := by
  have hdash : isTokenChar '-' = true := by decide
  have hblank {c : Code} (hc : isBlank c = true) : leavesTrace c = true := by simp [leavesTrace, hc]
  fun_induction collapseBlanks '-' t with
  | case1 => exact Nat.le_refl _
  | case2 c hc =>
    rw [List.filter_cons_of_pos hdash, List.countP_cons_of_pos (hblank hc)]
    exact Nat.le_refl _
  | case3 c hc d t hd ih =>
    rw [List.countP_cons_of_pos (hblank hc)]
    exact Nat.le_succ_of_le ih
  | case4 c hc d t hd ih =>
    rw [List.filter_cons_of_pos hdash, List.countP_cons_of_pos (hblank hc)]
    exact Nat.succ_le_succ ih
  | case5 c t hc ih =>
    rw [List.filter_cons, List.countP_cons]
    by_cases hkept : isTokenChar c = true
    · have htrace : leavesTrace c = true := by simp [leavesTrace, hkept]
      rw [if_pos hkept, if_pos htrace]
      exact Nat.succ_le_succ ih
    · rw [if_neg hkept]
      exact Nat.le_add_right_of_le ih

theorem length_sanitize_le (t : Text) : (sanitize t).length ≤ t.length :=
  Nat.le_trans (length_filter_collapseBlanks_le (lower t)) (countP_lowerAfter_le [] t)

/-! ## Labels and releases -/

theorem isToken_releaseLabel (settings : Settings) (today : Date) :
    IsToken (releaseLabel settings today) := by
  rw [releaseLabel]
  split <;> exact isToken_sanitize _

/-- Cleaning makes a token of every text, no longer than the text, and leaves exactly the tokens as
they are. So labels and releases of any settings give tokens, and labels short ones. -/
theorem sanitize_retracts (t : Text) (context : Context) (settings : Settings) (today : Date) :
    IsToken (sanitize t) ∧ (sanitize t).length ≤ t.length ∧
    sanitize (sanitize t) = sanitize t ∧ (sanitize t = t ↔ IsToken t) ∧
    (∃ label, Segment.label.generate context settings today = .ok label ∧
      IsToken label ∧ label.length ≤ 50) ∧
    ∃ name, Segment.releaseName.generate context settings today = .ok name ∧ IsToken name := by
  refine ⟨isToken_sanitize t, length_sanitize_le t, sanitize_eq_self (isToken_sanitize t),
    sanitize_eq_self_iff, ⟨_, rfl, isToken_sanitize _, ?_⟩,
    ⟨_, rfl, isToken_releaseLabel settings today⟩⟩
  calc (sanitize (settings.label.take labelLimit)).length
      ≤ (settings.label.take labelLimit).length := length_sanitize_le _
    _ ≤ 50 := List.length_take_le _ _

end MarkupNaming.Naming
