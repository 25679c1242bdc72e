import Mathlib.Data.List.TakeWhile
import MarkupNaming.Proofs.Text.Characters
import MarkupNaming.Proofs.Yaml.Faults.Characters
import MarkupNaming.Yaml.Tokens

/-!
# Faults of tokens

What ends the tokens of a text too early: a broken rule, or a number that is too large in an escape
or in a version. Each token is read within the text and leaves a position within it.
-/
namespace MarkupNaming

/-! ## Versions -/

namespace Text
variable {digits : Text}

/-- A decimal digit is no padding, no sign and no underscore, and it counts in base ten. -/
theorem of_isAsciiDigit {c : Code} (h : isAsciiDigit c = true) :
    isNumberPadding c = false ∧ (c ≠ '-' ∧ c ≠ '+' ∧ c ≠ '_') ∧
      (digitOfBase? 10 c).isSome = true := by
  have hascii : c.toNat < 128 := by
    simp only [isAsciiDigit, Bool.and_eq_true, decide_eq_true_eq] at h
    exact Nat.lt_of_le_of_lt h.2 (by decide)
  revert h
  exact forall_ascii (p := fun c => isAsciiDigit c = true → isNumberPadding c = false ∧
    (c ≠ '-' ∧ c ≠ '+' ∧ c ≠ '_') ∧ (digitOfBase? 10 c).isSome = true) (by decide) hascii

theorem unpadded_digits (h : ∀ c ∈ digits, isAsciiDigit c = true) : unpadded digits = digits := by
  have hdrop {u : Text} (hu : ∀ c ∈ u, isAsciiDigit c = true) : u.dropWhile isNumberPadding = u :=
    List.dropWhile_eq_self_iff.2 fun hlength =>
      Bool.eq_false_iff.1 (of_isAsciiDigit (hu _ (List.getElem_mem hlength))).1
  rw [unpadded, hdrop h, hdrop (by simpa using h), List.reverse_reverse]

theorem splitSign_digits (h : ∀ c ∈ digits, isAsciiDigit c = true) :
    splitSign digits = (false, digits) := by
  unfold splitSign
  split
  · exact absurd rfl (of_isAsciiDigit (h '-' List.mem_cons_self)).2.1.1
  · exact absurd rfl (of_isAsciiDigit (h '+' List.mem_cons_self)).2.1.2.1
  · rfl

theorem unmarked_ten (t : Text) : unmarked 10 t = t := by
  unfold unmarked
  split
  · next hmark => cases hmark
  · rfl

/-- An integer of decimal digits is too long only if it has more digits than the limit. -/
theorem eq_length_of_integerOfBase {count : Nat} (h : ∀ c ∈ digits, isAsciiDigit c = true)
    (hlong : integerOfBase 10 digits = .error (.tooLong count)) :
    count = digits.length ∧ digitLimit < count := by
  have hfront : (digits.takeWhile fun c => c == .char '_' || (digitOfBase? 10 c).isSome) = digits :=
    List.takeWhile_eq_self_iff.2 fun c hc => by
      rw [(of_isAsciiDigit (h c hc)).2.2, Bool.or_true]
  have hcount : digits.filter (· != .char '_') = digits :=
    List.filter_eq_self.2 fun c hc => bne_iff_ne.2 (of_isAsciiDigit (h c hc)).2.1.2.2
  rw [integerOfBase, unpadded_digits h, splitSign_digits h] at hlong
  dsimp only at hlong
  rw [unmarked_ten, hfront, hcount] at hlong
  split at hlong
  · cases hlong
  · split at hlong
    · next hlimit =>
      cases hlong
      exact ⟨rfl, hlimit.2⟩
    · split at hlong
      · cases hlong
      · split at hlong <;> cases hlong

end Text

namespace Yaml
open Text
variable {t : Text} {s : Source} {start : Mark}

/-! ## Properties and directives -/

theorem proceeds_readName (activity : Activity) (h : s.Within t) :
    Proceeds t (readName activity s) := by
  unfold readName
  dsimp only
  split
  · exact outcome_missing ..
  · exact h.next.skip _

theorem proceeds_nameToken (activity : Activity) (token : Text → Token) (h : s.Within t) :
    Proceeds t (do let (name, s) ← readName activity s; return (token name, s)) :=
  (proceeds_readName activity h).bind fun _ hbehind => hbehind

theorem proceeds_readEscapedBytes (activity : Activity) (fuel : Nat) (h : s.Within t) :
    Proceeds t (readEscapedBytes activity start fuel s) := by
  induction fuel generalizing s with
  | zero => exact h
  | succ fuel ih =>
    rw [readEscapedBytes]
    split
    · split
      · exact outcome_missingDigits ..
      · exact (ih (h.skip 3)).bind fun _ hfinal => hfinal
    · exact h

theorem proceeds_readTagChars (scanning : Activity) (fuel : Nat) (h : s.Within t) :
    Proceeds t (readTagChars scanning start fuel s) := by
  induction fuel generalizing s with
  | zero => exact h
  | succ fuel ih =>
    rw [readTagChars]
    split
    · exact h
    · split
      · refine (proceeds_readEscapedBytes scanning _ h).bind fun (bytes, behind) hbehind => ?_
        dsimp only
        split
        · exact outcome_broken ..
        · exact (ih hbehind).bind fun _ hfinal => hfinal
      · split
        · exact (ih h.next).bind fun _ hfinal => hfinal
        · exact h

theorem proceeds_readTagText (scanning parsing : Activity) (h : s.Within t) :
    Proceeds t (readTagText scanning parsing start s) := by
  unfold readTagText
  refine (proceeds_readTagChars scanning _ h).bind fun (text, behind) hbehind => ?_
  dsimp only
  split
  · exact outcome_missing ..
  · exact hbehind

theorem proceeds_readHandle (scanning : Activity) (h : s.Within t) :
    Proceeds t (readHandle scanning start s) := by
  unfold readHandle
  split
  · split
    · exact h.next
    · dsimp only
      split
      · exact h.skip _
      · exact outcome_missing ..
  · exact outcome_missing ..

theorem proceeds_readTag (h : s.Within t) : Proceeds t (readTag s) := by
  unfold readTag
  have hend {token : Token} {behind : Source} (hbehind : behind.Within t) :
      Proceeds t (if atSpaceOrEnd behind.rest then pure (token, behind)
        else missing .tag s.toMark .space behind) := by
    split
    · exact hbehind
    · exact outcome_missing ..
  dsimp only
  split
  · refine (proceeds_readTagText .tag .tagText (h.skip 2)).bind fun (text, behind) hbehind => ?_
    dsimp only
    split
    · exact hend hbehind.next
    · exact outcome_missing ..
  · split
    · exact hend h.next
    · split
      · refine (proceeds_readHandle .tag h).bind fun (handle, behind) hbehind => ?_
        exact (proceeds_readTagText .tag .tagText hbehind).bind fun _ hfinal => hend hfinal
      · exact (proceeds_readTagText .tag .tagText h.next).bind fun _ hfinal => hend hfinal

theorem proceeds_readVersionNumber (h : s.Within t) : Proceeds t (readVersionNumber start s) := by
  unfold readVersionNumber
  dsimp only
  split
  · exact h.skip _
  · exact outcome_missing ..
  · next count hlong =>
    have hdigits : ∀ c ∈ s.rest.takeWhile isAsciiDigit, isAsciiDigit c = true :=
      forall_mem_takeWhile
    obtain ⟨rfl, hlimit⟩ := eq_length_of_integerOfBase hdigits hlong
    have holds : s.rest.takeWhile isAsciiDigit ++ s.rest.dropWhile isAsciiDigit <:+ t := by
      rw [List.takeWhile_append_dropWhile]
      exact h
    exact .overflow (.version holds hdigits hlimit)

theorem proceeds_readVersion (h : s.Within t) : Proceeds t (readVersion start s) := by
  unfold readVersion
  refine (proceeds_readVersionNumber h.skipSpaces).bind fun (major, s) hs => ?_
  dsimp only
  split
  · exact outcome_missing ..
  · refine (proceeds_readVersionNumber hs.next).bind fun (minor, s) hs => ?_
    dsimp only
    split
    · exact hs
    · exact outcome_missing ..

theorem proceeds_readHandleDirective (h : s.Within t) :
    Proceeds t (readHandleDirective start s) := by
  unfold readHandleDirective
  refine (proceeds_readHandle .directive h.skipSpaces).bind fun (handle, s) hs => ?_
  dsimp only
  split
  · exact outcome_missing ..
  · refine Outcome.bind (proceeds_readTagText .directive .directiveText hs.skipSpaces) ?_
    rintro ⟨text, s⟩ hs
    dsimp only
    split
    · exact hs
    · exact outcome_missing ..

theorem proceeds_directiveEnd {directive : Directive} (h : s.Within t) :
    Proceeds t (match s.skipSpaces.skipComment.rest, s.skipSpaces.skipComment.lineBreak? with
      | [], _ => pure (Token.directive directive, s.skipSpaces.skipComment)
      | _, some (_, behind) => pure (Token.directive directive, behind)
      | _, none => missing .directive start .commentOrBreak s.skipSpaces.skipComment) := by
  split
  · exact h.skipSpaces.skipComment
  · next hbreak _ => exact h.skipSpaces.skipComment.lineBreak? hbreak
  · exact outcome_missing ..

theorem proceeds_readDirective (h : s.Within t) : Proceeds t (readDirective s) := by
  unfold readDirective
  dsimp only
  have hname := h.next.skip (s.next.rest.takeWhile isNameChar).length
  generalize s.next.skip (s.next.rest.takeWhile isNameChar).length = behind at hname
  split
  · exact outcome_missing ..
  · split
    · exact (proceeds_readVersion hname).bind fun _ hfinal => proceeds_directiveEnd hfinal
    · split
      · exact (proceeds_readHandleDirective hname).bind fun _ hfinal => proceeds_directiveEnd hfinal
      · exact proceeds_directiveEnd (hname.skipWhile _)

/-! ## Tokens -/

namespace Reading
variable {r : Reading}

/-- A reading goes on within a text, or it ends in a fault of the text. -/
abbrev GoesOn (t : Text) (x : Except Fault Reading) : Prop :=
  Outcome (·.source.Within t) (Stops t) x

theorem goesOn_dropKeys (dropped : PossibleKey → Bool) (h : r.source.Within t) :
    GoesOn t (r.dropKeys dropped) := by
  unfold dropKeys
  split
  · exact outcome_broken ..
  · exact h

theorem goesOn_saveKey (h : r.source.Within t) : GoesOn t r.saveKey := by
  unfold saveKey
  split
  · exact (goesOn_dropKeys _ h).bind fun _ hr => hr
  · exact h

@[simp] theorem source_unwind (r : Reading) (column : Int) :
    (r.unwind column).source = r.source := by
  unfold unwind
  split
  · rfl
  · dsimp only
    split <;> rfl

theorem source_indentTo {column : Nat} {opened : Reading} (h : r.indentTo column = some opened) :
    opened.source = r.source := by
  unfold indentTo at h
  split at h
  · cases h
    rfl
  · cases h

@[simp] theorem source_openBlock (r : Reading) (token : Token) :
    (r.openBlock token).source = r.source := by
  unfold openBlock
  split
  · next opened h => exact (source_indentTo h :)
  · rfl

theorem within_skipToToken (fuel : Nat) (h : r.source.Within t) :
    (skipToToken fuel r).source.Within t := by
  induction fuel generalizing r with
  | zero => exact h
  | succ fuel ih =>
    rw [skipToToken]
    split
    · exact h.skipSpaces.skipComment
    · next hbreak => exact ih (h.skipSpaces.skipComment.lineBreak? hbreak)

theorem goesOn_unwind (column : Int) (dropped : PossibleKey → Bool) (h : r.source.Within t) :
    GoesOn t ((r.unwind column).dropKeys dropped) :=
  goesOn_dropKeys dropped (by rwa [source_unwind])

theorem goesOn_documentMark (token : Token) (h : r.source.Within t) :
    GoesOn t (r.documentMark token) :=
  (goesOn_unwind _ _ h).bind fun _ hr => hr.skip 3

theorem goesOn_finish (h : r.source.Within t) : GoesOn t r.finish :=
  (goesOn_unwind _ _ h).bind fun _ hr => hr

theorem goesOn_readDirectiveLine (h : r.source.Within t) : GoesOn t r.readDirectiveLine :=
  (goesOn_unwind _ _ h).bind fun _ hr =>
    (proceeds_readDirective hr).bind fun _ hbehind => hbehind

theorem goesOn_openFlow (token : Token) (h : r.source.Within t) : GoesOn t (r.openFlow token) :=
  (goesOn_saveKey h).bind fun _ hr => hr.next

theorem goesOn_closeFlow (token : Token) (h : r.source.Within t) : GoesOn t (r.closeFlow token) :=
  (goesOn_dropKeys _ h).bind fun _ hr => hr.next

theorem goesOn_readFlowEntry (h : r.source.Within t) : GoesOn t r.readFlowEntry :=
  (goesOn_dropKeys (r := { r with keyAllowed := true }) _ h).bind fun _ hr => hr.next

/-- A mark that may open a block in front of it. -/
theorem within_opened (opening : Token) (h : r.source.Within t) :
    (if r.inFlow then r else r.openBlock opening).source.Within t := by
  split
  · exact h
  · rwa [source_openBlock]

theorem goesOn_readBlockEntry (h : r.source.Within t) : GoesOn t r.readBlockEntry := by
  unfold readBlockEntry
  split
  · exact .syntaxFault _
  · have hopened := within_opened .blockSequenceStart h
    generalize (if r.inFlow then r else r.openBlock .blockSequenceStart) = opened at hopened
    exact (goesOn_dropKeys (r := { opened with keyAllowed := true }) _ hopened).bind
      fun _ hr => hr.next

theorem goesOn_readKey (h : r.source.Within t) : GoesOn t r.readKey := by
  unfold readKey
  split
  · exact .syntaxFault _
  · have hopened := within_opened .blockMappingStart h
    generalize (if r.inFlow then r else r.openBlock .blockMappingStart) = opened at hopened
    exact (goesOn_dropKeys (r := { opened with keyAllowed := !opened.inFlow }) _ hopened).bind
      fun _ hr => hr.next

theorem goesOn_readValue (h : r.source.Within t) : GoesOn t r.readValue := by
  unfold readValue
  split
  · next k _ =>
    have hkey : (({ r with keys := r.keys.filter (·.level != r.level) }).insert k .key).source =
      r.source := rfl
    generalize ({ r with keys := r.keys.filter (·.level != r.level) }).insert k .key = keyed at hkey
    refine Source.Within.next ?_
    split
    · rwa [hkey]
    · split
      · next opened hindent =>
        change opened.source.Within t
        rwa [source_indentTo hindent, hkey]
      · rwa [hkey]
  · split
    · exact .syntaxFault _
    · have hopened := within_opened .blockMappingStart h
      generalize (if r.inFlow then r else r.openBlock .blockMappingStart) = opened at hopened
      exact (goesOn_dropKeys (r := { opened with keyAllowed := !opened.inFlow }) _ hopened).bind
        fun _ hr => hr.next

theorem goesOn_readProperty {read : Source → Except Fault (Token × Source)}
    (hread : ∀ s, s.Within t → Proceeds t (read s)) (h : r.source.Within t) :
    GoesOn t (r.readProperty read) :=
  (goesOn_saveKey h).bind fun _ hr => (hread _ hr).bind fun _ hbehind => hbehind

theorem goesOn_readBlockScalar (folded : Bool) (h : r.source.Within t) :
    GoesOn t (r.readBlockScalar folded) :=
  (goesOn_dropKeys (r := { r with keyAllowed := true }) _ h).bind fun _ hr =>
    (proceeds_readBlock folded _ hr).bind fun _ hbehind => hbehind

theorem goesOn_readPlainScalar (h : r.source.Within t) : GoesOn t r.readPlainScalar :=
  (goesOn_saveKey h).bind fun _ hr => within_readPlain _ _ hr

/-- One more token is read within the text. -/
theorem goesOn_step (h : r.source.Within t) : GoesOn t r.step := by
  unfold step
  refine (goesOn_dropKeys _ (within_skipToToken _ h)).bind fun r hr => ?_
  replace hr : (r.unwind r.source.column).source.Within t := by rwa [source_unwind]
  generalize r.unwind r.source.column = r at hr
  dsimp only
  split
  · exact goesOn_finish hr
  · next c rest hrest =>
    refine .ite (goesOn_readDirectiveLine hr) ?_
    refine .ite (goesOn_documentMark _ hr) (.ite (goesOn_documentMark _ hr) ?_)
    refine .ite (goesOn_openFlow _ hr) (.ite (goesOn_openFlow _ hr) ?_)
    refine .ite (goesOn_closeFlow _ hr) (.ite (goesOn_closeFlow _ hr) ?_)
    refine .ite (goesOn_readFlowEntry hr) (.ite (goesOn_readBlockEntry hr) ?_)
    refine .ite (goesOn_readKey hr) (.ite (goesOn_readValue hr) ?_)
    refine .ite (goesOn_readProperty (fun _ => proceeds_nameToken .reference .reference) hr) ?_
    refine .ite (goesOn_readProperty (fun _ => proceeds_nameToken .anchor .anchor) hr) ?_
    refine .ite (goesOn_readProperty (fun _ => proceeds_readTag) hr) ?_
    refine .ite (goesOn_readBlockScalar _ hr) (.ite (goesOn_readBlockScalar _ hr) ?_)
    refine .ite (goesOn_readProperty (fun _ hs =>
      (proceeds_readQuoted c hs).bind fun _ hbehind => hbehind) hr) ?_
    exact .ite (goesOn_readPlainScalar hr) (.syntaxFault _)

end Reading

namespace Tokens

theorem stops_of_read (fuel : Nat) {r : Reading} (h : r.source.Within t) :
    ∀ fault ∈ (read fuel r).fault, Stops t fault := by
  induction fuel generalizing r with
  | zero => exact fun _ hnone => absurd hnone (Option.not_mem_none _)
  | succ fuel ih =>
    rw [read]
    have hstep := Reading.goesOn_step h
    split
    · next fault hfault =>
      intro last hlast
      obtain rfl : fault = last := Option.some.inj hlast
      exact hstep.of_eq_error hfault
    · next next hnext =>
      have hwithin := hstep.of_eq_ok hnext
      split
      · exact fun _ hnone => absurd hnone (Option.not_mem_none _)
      · have hkeys := Reading.goesOn_dropKeys next.isStale hwithin
        split
        · next fault hfault =>
          intro last hlast
          obtain rfl : fault = last := Option.some.inj hlast
          exact hkeys.of_eq_error hfault
        · next kept hkept => exact ih (hkeys.of_eq_ok hkept)

/-- What ends the tokens of a text too early is a broken rule or a number that is too large. -/
theorem stops_of_ofText (t : Text) : ∀ fault ∈ (ofText t).fault, Stops t fault := by
  have hstart : (⟨{}, t⟩ : Source).Within t := List.suffix_rfl
  unfold ofText
  dsimp only
  refine stops_of_read _ ?_
  dsimp only
  split
  · exact hstart.next
  · exact hstart

end Tokens
end Yaml
end MarkupNaming
