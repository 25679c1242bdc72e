import MarkupNaming.Proofs.Yaml.Faults.Outcome
import MarkupNaming.Proofs.Yaml.Position
import MarkupNaming.Yaml.Property
import MarkupNaming.Yaml.Scalar.Block

/-!
# Faults of characters

What can be wrong where characters are read one after the other. Positions only move on, so what
is read is a part of the text. Beside broken rules there is one kind of fault: a number that the
text writes is too large for what it stands for.
-/
namespace MarkupNaming.Yaml
open Text
variable {t : Text} {s : Source} {start : Mark}

/-- A text writes a number that is too large: in an escape, for a character, or in a version, for
an integer. -/
inductive Overflows (t : Text) : ScalarFault → Prop
  | escape {letter : Code} {rest : Text} {width n : Nat} {fault : ScalarFault}
    (holds : .char '\\' :: letter :: rest <:+ t) (hwidth : escapeWidth? letter = some width)
    (hnumber : hexNumber? width rest = some n) (hchar : charOf n = .error fault) :
    Overflows t fault
  | version {digits rest : Text} (holds : digits ++ rest <:+ t)
    (hdigits : ∀ c ∈ digits, isAsciiDigit c = true) (hlong : digitLimit < digits.length) :
    Overflows t (.longInteger digits.length)

/-- A fault that can be found while the characters of a text are read. -/
inductive Stops (t : Text) : Fault → Prop
  | syntaxFault (fault : SyntaxFault) : Stops t (.syntaxFault fault)
  | overflow {fault : ScalarFault} (h : Overflows t fault) : Stops t (.scalar fault)

namespace Source

/-- A position within a text. -/
def Within (s : Source) (t : Text) : Prop := s.rest <:+ t

theorem Within.skip (h : s.Within t) (n : Nat) : (s.skip n).Within t := by
  rw [Within, rest_skip]
  exact (List.drop_suffix n s.rest).trans h

theorem Within.next (h : s.Within t) : s.next.Within t := h.skip 1

theorem Within.skipWhile (h : s.Within t) (p : Code → Bool) : (s.skipWhile p).Within t := h.skip _

theorem Within.skipSpaces (h : s.Within t) : s.skipSpaces.Within t := h.skip _

theorem Within.skipComment (h : s.Within t) : s.skipComment.Within t := by
  unfold Source.skipComment
  split
  · exact h.skip _
  · exact h

theorem Within.lineBreak? {char : Text} {behind : Source} (h : s.Within t)
    (hbreak : s.lineBreak? = some (char, behind)) : behind.Within t := by
  unfold Source.lineBreak? at hbreak
  split at hbreak
  · cases hbreak
    exact h.skip 2
  · split at hbreak
    · cases hbreak
      exact h.next
    · split at hbreak
      · cases hbreak
        exact h.next
      · cases hbreak
  · cases hbreak

end Source

variable {α : Type} {P : α → Prop}

theorem outcome_broken (activity : Activity) (start : Mark) (breach : Breach) (s : Source) :
    Outcome P (Stops t) (broken activity start breach s) := .syntaxFault _

theorem outcome_missing (activity : Activity) (start : Mark) (what : Expectation) (s : Source) :
    Outcome P (Stops t) (missing activity start what s) := .syntaxFault _

theorem outcome_missingDigits (activity : Activity) (start : Mark) (what : Expectation)
    (s : Source) : Outcome P (Stops t) (missingDigits activity start what s) := .syntaxFault _

/-- A part of reading goes on within a text, or it ends in a fault of the text. -/
abbrev Proceeds (t : Text) (x : Except Fault (α × Source)) : Prop :=
  Outcome (·.2.Within t) (Stops t) x

/-! ## Quoted scalars -/

theorem proceeds_quotedBreaks (fuel : Nat) (h : s.Within t) :
    Proceeds t (quotedBreaks start fuel s) := by
  induction fuel generalizing s with
  | zero => exact h
  | succ fuel ih =>
    rw [quotedBreaks]
    split
    · exact outcome_broken ..
    · dsimp only
      split
      · exact h.skipWhile _
      · next hbreak =>
        exact (ih ((h.skipWhile _).lineBreak? hbreak)).bind fun _ hfinal => hfinal

/-- Behind a backslash an escape may write a number that is too large. -/
theorem proceeds_readEscape (h : .char '\\' :: s.rest <:+ t) : Proceeds t (readEscape start s) := by
  have hs : s.Within t := (List.suffix_cons ..).trans h
  unfold readEscape
  split
  · exact outcome_broken ..
  · next letter rest hrest =>
    rw [hrest] at h
    split
    · exact hs.next
    · next width hwidth =>
      split
      · exact outcome_missingDigits ..
      · next n hnumber =>
        cases hchar : charOf n with
        | error fault => exact .overflow (.escape h hwidth hnumber hchar)
        | ok char => exact hs.skip _
    · split
      · next hbreak => exact proceeds_quotedBreaks _ (hs.lineBreak? hbreak)
      · exact outcome_broken ..

theorem proceeds_readBlanks (h : s.Within t) : Proceeds t (readBlanks start s) := by
  unfold readBlanks
  dsimp only
  split
  · exact outcome_broken ..
  · exact h.skip _
  · next hbreak _ =>
    exact (proceeds_quotedBreaks _ ((h.skip _).lineBreak? hbreak)).bind fun _ hfinal => hfinal

theorem proceeds_readQuotedRest (quote : Code) (fuel : Nat) (h : s.Within t) :
    Proceeds t (readQuotedRest start quote fuel s) := by
  induction fuel generalizing s with
  | zero => exact outcome_broken ..
  | succ fuel ih =>
    rw [readQuotedRest]
    split
    · exact outcome_broken ..
    · next c rest hrest =>
      split
      · split
        · exact (ih (h.skip 2)).bind fun _ hfinal => hfinal
        · exact h.next
      · split
        · exact (proceeds_readBlanks h).bind fun _ hs =>
            (ih hs).bind fun _ hfinal => hfinal
        · split
          · next hescape =>
            have hbackslash : .char '\\' :: s.next.rest <:+ t := by
              rw [Source.rest_next, hrest, List.tail_cons, ← hescape.1, ← hrest]
              exact h
            exact (proceeds_readEscape hbackslash).bind fun _ hs =>
              (ih hs).bind fun _ hfinal => hfinal
          · exact (ih h.next).bind fun _ hfinal => hfinal

theorem proceeds_readQuoted (quote : Code) (h : s.Within t) : Proceeds t (readQuoted quote s) :=
  proceeds_readQuotedRest quote _ h.next

/-! ## Plain scalars -/

theorem within_plainBreaks (fuel : Nat) (h : s.Within t) : (plainBreaks fuel s).2.Within t := by
  induction fuel generalizing s with
  | zero => exact h
  | succ fuel ih =>
    rw [plainBreaks]
    split
    · exact ih h.next
    · split
      · exact h
      · next hbreak =>
        split
        · exact h.lineBreak? hbreak
        · exact ih (h.lineBreak? hbreak)

theorem within_plainGap (h : s.Within t) : (plainGap s).2.1.Within t := by
  unfold plainGap
  dsimp only
  split
  · exact h.skipSpaces
  · next hbreak =>
    split
    · exact h.skipSpaces.lineBreak? hbreak
    · exact within_plainBreaks _ (h.skipSpaces.lineBreak? hbreak)

theorem within_plainRest (inFlow : Bool) (indent fuel : Nat) (gap : Text) (broken : Bool)
    (h : s.Within t) : (plainRest inFlow indent fuel gap s broken).2.1.Within t := by
  induction fuel generalizing gap s broken with
  | zero => exact h
  | succ fuel ih =>
    rw [plainRest]
    generalize (if s.rest.head? = some (.char '#') then [] else plainRun inFlow s.rest) = run
    have hgap := within_plainGap (h.skip run.length)
    dsimp only
    split
    · exact h
    · split
      · exact hgap
      · split
        · exact hgap
        · exact ih _ _ hgap

theorem within_readPlain (inFlow : Bool) (indent : Nat) (h : s.Within t) :
    (readPlain inFlow indent s).2.1.Within t := within_plainRest inFlow indent _ _ _ h

/-! ## Block scalars -/

theorem within_readChomping (h : s.Within t) : (readChomping s).2.Within t := by
  unfold readChomping
  split
  · exact h.next
  · exact h.next
  · exact h

theorem proceeds_readIncrement (h : s.Within t) : Proceeds t (readIncrement start s) := by
  unfold readIncrement
  split
  · split
    · exact outcome_broken ..
    · split
      · exact h.next
      · exact h
  · exact h

theorem outcome_readIndicators (h : s.Within t) :
    Outcome (·.2.2.Within t) (Stops t) (readIndicators start s) := by
  have hchomping := within_readChomping h
  unfold readIndicators
  generalize readChomping s = sign at hchomping
  refine (proceeds_readIncrement hchomping).bind fun (increment, behind) hbehind => ?_
  have hsign : (if sign.1 = .clip ∧ increment.isSome then readChomping behind
      else (sign.1, behind)).2.Within t := by
    split
    · exact within_readChomping hbehind
    · exact hbehind
  dsimp only
  generalize (if sign.1 = .clip ∧ increment.isSome then readChomping behind
    else (sign.1, behind)) = signs at hsign
  split
  · exact hsign
  · exact outcome_missing ..

theorem outcome_skipHeaderLine (h : s.Within t) :
    Outcome (·.Within t) (Stops t) (skipHeaderLine start s) := by
  unfold skipHeaderLine
  dsimp only
  split
  · exact h.skipSpaces.skipComment
  · next hbreak _ => exact h.skipSpaces.skipComment.lineBreak? hbreak
  · exact outcome_missing ..

theorem within_leadingBreaks (fuel deepest : Nat) (h : s.Within t) :
    (leadingBreaks fuel deepest s).2.2.Within t := by
  induction fuel generalizing deepest s with
  | zero => exact h
  | succ fuel ih =>
    rw [leadingBreaks]
    split
    · exact ih _ h.next
    · split
      · exact h
      · next hbreak => exact ih _ (h.lineBreak? hbreak)

theorem within_innerBreaks (indent fuel : Nat) (h : s.Within t) :
    (innerBreaks indent fuel s).2.Within t := by
  induction fuel generalizing s with
  | zero => exact h
  | succ fuel ih =>
    rw [innerBreaks]
    have hskip : (skipIndent indent s).Within t := h.skip _
    dsimp only
    split
    · exact hskip
    · next hbreak => exact ih (hskip.lineBreak? hbreak)

theorem within_blockLines (folded : Bool) (chomping : Chomping) (indent fuel : Nat) (breaks : Text)
    (h : s.Within t) : (blockLines folded chomping indent fuel breaks s).2.Within t := by
  induction fuel generalizing breaks s with
  | zero => exact h
  | succ fuel ih =>
    rw [blockLines]
    have hend := h.skip (s.rest.takeWhile (!isBreak ·)).length
    generalize s.skip (s.rest.takeWhile (!isBreak ·)).length = atEnd at hend
    have hbreak : (atEnd.lineBreak?.getD ([], atEnd)).2.Within t := by
      cases hbreak : atEnd.lineBreak? with
      | none => exact hend
      | some found => exact hend.lineBreak? hbreak
    dsimp only
    generalize atEnd.lineBreak?.getD ([], atEnd) = found at hbreak
    obtain ⟨first, behind⟩ := found
    have hfinal := within_innerBreaks indent behind.rest.length hbreak
    dsimp only
    generalize innerBreaks indent behind.rest.length behind = found at hfinal
    obtain ⟨next, final⟩ := found
    dsimp only
    split
    · exact ih next hfinal
    · exact hfinal

theorem proceeds_readBlock (folded : Bool) (parent : Int) (h : s.Within t) :
    Proceeds t (readBlock folded parent s) := by
  unfold readBlock
  refine (outcome_readIndicators h.next).bind ?_
  rintro ⟨chomping, increment, behind⟩ hbehind
  refine (outcome_skipHeaderLine hbehind).bind fun line hline => ?_
  cases increment with
  | none =>
    have hfirst := within_leadingBreaks line.rest.length 0 hline
    dsimp only
    split
    · exact within_blockLines _ _ _ _ _ hfirst
    · exact hfirst
  | some n =>
    have hfirst := within_innerBreaks ((max (parent + 1) 1).toNat + n - 1) line.rest.length hline
    dsimp only
    split
    · exact within_blockLines _ _ _ _ _ hfirst
    · exact hfirst

end MarkupNaming.Yaml
