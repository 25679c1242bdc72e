import MarkupNaming.Proofs.Markup.Nesting
import Mathlib.Data.List.Infix

/-!
# Balanced insertions

Well-nested nodes put between the tokens of a document leave the ancestors of everything behind them
as they were, however broken the document is. The text in front of them has to be read through to
its end: every `<` in it has a `>` behind it, and it does not end within a comment. Then its tokens
do not depend on what follows, and reading comes to the nodes with some names open. The nodes leave
these names open and no others.
-/
namespace MarkupNaming.Markup
open Text
variable {t u rest after : Text} {token : Token}

/-! ## What is left behind a token -/

theorem suffix_of_closing? {name : Text} (h : closing? t = some (name, after)) : after <:+ t := by
  unfold closing? at h
  split at h
  · next c word =>
    split at h
    · split at h
      · next found =>
        cases h
        have hgap := List.dropWhile_suffix isBlank (l := word.dropWhile isWord)
        rw [found] at hgap
        exact (((List.suffix_cons _ after).trans hgap).trans
          (List.dropWhile_suffix isWord)).trans (List.suffix_cons c word)
      · cases h
    · cases h
  · cases h

theorem suffix_of_opening? (h : opening? t = some (token, after)) : after <:+ t := by
  simp only [opening?, Option.bind_eq_bind, Option.bind_eq_some_iff] at h
  obtain ⟨tag, -, name, -, done⟩ := h
  cases done
  exact List.drop_suffix _ t

theorem afterComment_suffix (t : Text) : afterComment t <:+ t := by
  fun_induction afterComment t with
  | case1 => exact List.suffix_rfl
  | case2 rest => exact List.suffix_append ("-->" : Text) _
  | case3 c rest _ ih => exact ih.trans (List.suffix_cons c rest)

/-- What is left behind the first token is an end of the text. -/
theorem suffix_of_token? (h : token? t = some (token, after)) : after <:+ t := by
  unfold token? at h
  split at h
  · cases h
  · cases h
    exact (afterComment_suffix _).trans (List.suffix_append ("<!--" : Text) _)
  · split at h
    · next found =>
      cases h
      exact (suffix_of_closing? found).trans (List.suffix_append ("</" : Text) _)
    · cases h
      exact List.suffix_cons _ _
  · cases h
    exact List.suffix_cons _ _
  · next rest _ _ _ =>
    cases found : opening? (.char '<' :: rest) with
    | none =>
      rw [found] at h
      cases h
      exact List.suffix_cons _ _
    | some pair =>
      rw [found] at h
      cases h
      exact suffix_of_opening? found
  · cases h
    exact List.suffix_cons _ _

theorem exists_token? (h : t ≠ []) : ∃ token after, token? t = some (token, after) := by
  unfold token?
  split
  · exact absurd rfl h
  · exact ⟨_, _, rfl⟩
  · split <;> exact ⟨_, _, rfl⟩
  · exact ⟨_, _, rfl⟩
  · next rest _ _ _ =>
    cases opening? (.char '<' :: rest) with
    | none => exact ⟨_, _, rfl⟩
    | some pair => exact ⟨pair.1, pair.2, rfl⟩
  · exact ⟨_, _, rfl⟩

/-! ## Tokens in front of another text -/

/-- A closing tag ends at the `>` behind its name, or it is none. -/
theorem closing?_append_of_mem (h : .char '>' ∈ t) (rest : Text) : closing? (t ++ rest) =
    (closing? t).map fun (name, after) => (name, after ++ rest) := by
  obtain ⟨c, t, rfl⟩ := List.exists_cons_of_ne_nil (List.ne_nil_of_mem h)
  by_cases hc : isAsciiLetter c = true
  · have hclose : c ≠ '>' := by
      rintro rfl
      exact absurd hc (by decide)
    obtain ⟨-, back, heq⟩ := exists_takeWhile_ne ((List.mem_cons.1 h).resolve_left hclose.symm)
    generalize t.takeWhile (· != .char '>') = front at heq
    subst heq
    have hword (z : Text) : StartsOutside isWord (.char '>' :: z) :=
      startsOutside_cons.2 (by decide)
    have hblank (z : Text) : StartsOutside isBlank (.char '>' :: z) :=
      startsOutside_cons.2 (by decide)
    rw [List.cons_append, List.append_assoc, List.cons_append, closing?, closing?, if_pos hc,
      if_pos hc, takeWhile_append _ (hword _), takeWhile_append _ (hword _),
      dropWhile_append _ (hword _), dropWhile_append _ (hword _), dropWhile_append _ (hblank _),
      dropWhile_append _ (hblank _)]
    cases (front.dropWhile isWord).dropWhile isBlank with
    | nil => rfl
    | cons d gap =>
      by_cases hd : d = '>'
      · subst hd
        simp
      · simp [hd]
  · rw [List.cons_append, closing?, closing?, if_neg hc, if_neg hc]
    rfl

/-- An opening tag ends at the first `>`, or it is none. -/
theorem opening?_append_of_mem (h : .char '>' ∈ t) (rest : Text) : opening? (t ++ rest) =
    (opening? t).map fun (token, after) => (token, after ++ rest) := by
  obtain ⟨hfront, back, heq⟩ := exists_takeWhile_ne h
  generalize t.takeWhile (· != .char '>') = front at hfront heq
  subst heq
  have hdrop (z : Text) : (front ++ .char '>' :: z).drop (front ++ [Code.char '>']).length = z := by
    have hsplit : front ++ .char '>' :: z = (front ++ [Code.char '>']) ++ z := by simp
    rw [hsplit, List.drop_left]
  simp only [opening?, Option.bind_eq_bind, List.append_assoc, List.cons_append,
    throughClose?_append hfront, Option.bind_some, hdrop]
  cases tagName? (front ++ [Code.char '>']) <;> rfl

/-- Whether a text starts with a comment that does not end in it. -/
def StartsOpenComment (t : Text) : Prop := ("<!--" : Text) <+: t ∧ ¬ ("-->" : Text) <:+: t.drop 4

instance (t : Text) : Decidable (StartsOpenComment t) :=
  inferInstanceAs (Decidable (_ ∧ _))

theorem afterComment_append_of_mark (h : ("-->" : Text) <:+: t) (rest : Text) :
    afterComment (t ++ rest) = afterComment t ++ rest := by
  obtain ⟨c, after, hfirst, rfl⟩ := exists_of_mark_isInfix h
  rw [List.append_assoc, List.append_assoc, afterComment_append_mark hfirst,
    afterComment_append_mark hfirst]

theorem token?_bang (h : ¬ ("--" : Text) <+: t) :
    token? (.char '<' :: .char '!' :: t) = some (.other, .char '!' :: t) := by
  rw [token?]
  rintro v rfl
  exact h (List.prefix_append ("--" : Text) v)

theorem token?_open {c : Code} (hslash : c ≠ '/') (hbang : c ≠ '!') (t : Text) :
    token? (.char '<' :: c :: t) = (opening? (.char '<' :: c :: t)).or (some (.other, c :: t)) := by
  rw [token?] <;> simp [hslash, hbang]

theorem token?_append_slash {u : Text} (hclose : .char '>' ∈ u) (rest : Text) :
    token? (.char '<' :: .char '/' :: (u ++ rest)) =
      (token? (.char '<' :: .char '/' :: u)).map fun (token, after) => (token, after ++ rest) := by
  have hclosing := closing?_append_of_mem hclose rest
  cases found : closing? u with
  | none =>
    rw [found, Option.map_none] at hclosing
    simp [token?, found, hclosing]
  | some pair =>
    rw [found, Option.map_some] at hclosing
    simp [token?, found, hclosing]

theorem token?_append_bang {u : Text} (hclose : .char '>' ∈ u)
    (hcomment : ¬ StartsOpenComment (.char '<' :: .char '!' :: u)) (rest : Text) :
    token? (.char '<' :: .char '!' :: (u ++ rest)) =
      (token? (.char '<' :: .char '!' :: u)).map fun (token, after) => (token, after ++ rest) := by
  by_cases hdashes : ("--" : Text) <+: u
  · obtain ⟨u, rfl⟩ := hdashes
    have hmark : ("-->" : Text) <:+: u := Decidable.byContradiction fun hopen =>
      hcomment ⟨List.prefix_append ("<!--" : Text) u, hopen⟩
    have hafter := afterComment_append_of_mark hmark rest
    simp [token?, hafter]
  · have hdashes' : ¬ ("--" : Text) <+: u ++ rest := by
      intro h
      obtain ⟨e, u, rfl⟩ := List.exists_cons_of_ne_nil (List.ne_nil_of_mem hclose)
      cases u with
      | nil =>
        obtain rfl : '>' = e := by simpa using hclose
        simp at h
      | cons f u => exact hdashes (by simpa using h)
    rw [token?_bang hdashes, token?_bang hdashes']
    rfl

/-- The first token of a text does not depend on what follows, if a `>` stands behind its `<` and it
is no open comment. -/
theorem token?_append (hne : t ≠ []) (hclosed : ∀ u, t = .char '<' :: u → .char '>' ∈ u)
    (hcomment : ¬ StartsOpenComment t) (rest : Text) : token? (t ++ rest) =
    (token? t).map fun (token, after) => (token, after ++ rest) := by
  obtain ⟨c, t, rfl⟩ := List.exists_cons_of_ne_nil hne
  by_cases hc : c = '<'
  · subst hc
    have hclose : .char '>' ∈ t := hclosed t rfl
    obtain ⟨d, u, rfl⟩ := List.exists_cons_of_ne_nil (List.ne_nil_of_mem hclose)
    by_cases hslash : d = '/'
    · subst hslash
      exact token?_append_slash (by simpa using hclose) rest
    by_cases hbang : d = '!'
    · subst hbang
      exact token?_append_bang (by simpa using hclose) hcomment rest
    · have hopening := opening?_append_of_mem (List.mem_cons_of_mem (.char '<') hclose) rest
      rw [List.cons_append, List.cons_append] at hopening
      rw [List.cons_append, List.cons_append, token?_open hslash hbang, token?_open hslash hbang,
        hopening]
      cases opening? (.char '<' :: d :: u) <;> rfl
  · rw [List.cons_append, token?_cons_of_ne hc, token?_cons_of_ne hc]
    rfl

/-! ## Texts that are read through -/

/-- The rests of a text that start with one of its tokens, the text itself first. -/
def tokenStarts (t : Text) : List Text :=
  match _h : token? t with
  | none => []
  | some (_, after) => t :: tokenStarts after
termination_by t.length
decreasing_by exact length_of_token? (by assumption)

theorem tokenStarts_eq (h : token? t = some (token, after)) :
    tokenStarts t = t :: tokenStarts after := by
  rw [tokenStarts]
  split
  · next hnone => rw [h] at hnone; cases hnone
  · next hsome => rw [h] at hsome; cases hsome; rfl

/-- Whether the tokens of a text end with it, whatever follows: every `<` has a `>` behind it, and
no comment is left open. -/
structure IsReadThrough (t : Text) : Prop where
  closed : ∀ u, .char '<' :: u <:+ t → .char '>' ∈ u
  commentsClosed : ∀ u ∈ tokenStarts t, ¬ StartsOpenComment u

namespace IsReadThrough

theorem behind (h : IsReadThrough t) (hread : token? t = some (token, after)) :
    IsReadThrough after where
  closed u hu := h.closed u (hu.trans (suffix_of_token? hread))
  commentsClosed u hu := by
    refine h.commentsClosed u ?_
    rw [tokenStarts_eq hread]
    exact List.mem_cons_of_mem t hu

theorem token?_append (h : IsReadThrough t) (hread : token? t = some (token, after))
    (rest : Text) : token? (t ++ rest) = some (token, after ++ rest) := by
  have hne : t ≠ [] := by
    rintro rfl
    cases hread
  have hhere : t ∈ tokenStarts t := by
    rw [tokenStarts_eq hread]
    exact List.mem_cons_self
  rw [Markup.token?_append hne (fun u hu => h.closed u (hu ▸ List.suffix_rfl))
    (h.commentsClosed t hhere), hread]
  rfl

/-- The tokens of what follows come behind the tokens of a text that is read through. -/
theorem tokensWithin_append (h : IsReadThrough t) (rest : Text) (k : Nat) :
    tokensWithin (t.length + k) (t ++ rest) = tokensWithin t.length t ++ tokensWithin k rest := by
  induction hlength : t.length using Nat.strongRecOn generalizing t with
  | ind n ih =>
    subst hlength
    by_cases hne : t = []
    · subst hne
      rw [List.length_nil, tokensWithin_zero, Nat.zero_add, List.nil_append, List.nil_append]
    obtain ⟨token, after, hread⟩ := exists_token? hne
    have hshorter := length_of_token? hread
    have hleft : t.length + k - ((t ++ rest).length - (after ++ rest).length) =
        after.length + k := by
      simp only [List.length_append]
      omega
    have hleft' : t.length - (t.length - after.length) = after.length := by omega
    rw [tokensWithin_eq (by omega) (h.token?_append hread rest), hleft,
      tokensWithin_eq (by omega) hread, hleft', ih _ hshorter (h.behind hread) rfl,
      List.cons_append]

/-- Reading goes on behind a text that is read through with the names that it leaves open. -/
theorem chain_append (h : IsReadThrough t) (stack : List Text) (rest : Text) (k : Nat) :
    chain stack (t.length + k) (t ++ rest) =
      chain ((tokensWithin t.length t).foldl track stack) k rest := by
  rw [chain, h.tokensWithin_append, List.foldl_append, List.drop_length_add_append]
  rfl

end IsReadThrough

/-! ## Insertions -/

/-- Well-nested nodes behind a text that is read through leave the ancestors of everything that
follows as they were without them. -/
theorem ancestors_append_render {front : Text} (h : IsReadThrough front) (f : Forest) (back : Text)
    (k : Nat) : ancestors (front ++ (f.render ++ back)) (front.length + f.render.length + k : Nat) =
      ancestors (front ++ back) (front.length + k : Nat) := by
  have hlimit : min (front.length + f.render.length + k) (front ++ (f.render ++ back)).length =
      front.length + (f.render.length + min k back.length) := by
    simp only [List.length_append]
    omega
  have hlimit' : min (front.length + k) (front ++ back).length =
      front.length + min k back.length := by
    rw [List.length_append]
    omega
  rw [ancestors_eq_chain, ancestors_eq_chain, Int.toNat_natCast, Int.toNat_natCast, hlimit, hlimit',
    h.chain_append, h.chain_append, f.chain_render]

/-- The nodes close the tag that they open and leave the one in front of them, which has the same
name, to the closing tag behind them. -/
theorem ancestors_append_render_bold :
    IsReadThrough "</b><i><!--<b>--><b <u>" ∧
      ancestors "</b><i><!--<b>--><b <u><b>x<br></B></b><p>" 39 =
        ancestors "</b><i><!--<b>--><b <u></b><p>" 27 ∧
      ancestors "</b><i><!--<b>--><b <u></b><p>" 27 = [("i" : Text), ("p" : Text)] := by
  have hread : IsReadThrough "</b><i><!--<b>--><b <u>" := by
    have hclosed : ∀ v ∈ ("</b><i><!--<b>--><b <u>" : Text).tails,
        v.head? = some (.char '<') → .char '>' ∈ v.tail := by
      decide
    exact ⟨fun u hu => hclosed _ ((List.mem_tails _ _).2 hu) rfl, by decide +kernel⟩
  let f : Forest :=
    .element ⟨⟨"b", rfl⟩, [], by decide, startsOutside_nil⟩ (by decide +kernel)
      (.text "x" (by decide) (.leaf ⟨⟨"br", rfl⟩, [], by decide, startsOutside_nil⟩
        (by decide +kernel) .nil))
      ⟨⟨"B", rfl⟩, [], by decide +kernel, nofun⟩ .nil
  have hrender : f.render = ("<b>x<br></B>" : Text) := by decide +kernel
  have hsame := ancestors_append_render hread f "</b><p>" 4
  rw [hrender] at hsame
  exact ⟨hread, hsame, by decide +kernel⟩

end MarkupNaming.Markup
