import MarkupNaming.Proofs.Markup.Tag

/-!
# Tokens

What each kind of token looks like at the start of a text, and what reading it does to the names
that are open. A chain is what is open after the tokens that start within a number of characters,
with the tag behind them; a token that ends where a text goes on moves the chain along.
-/
namespace MarkupNaming.Markup
open Text

/-! ## Comments -/

theorem afterComment_cons {c : Code} {t : Text} (h : ¬ ("-->" : Text) <+: c :: t) :
    afterComment (c :: t) = afterComment t := by
  rw [afterComment]
  rintro rest rfl rfl
  exact h ⟨rest, rfl⟩

/-- Text without `-->` is skipped, unless a `-->` begins in it and ends behind it. -/
theorem afterComment_append {c rest : Text} (h : ¬ ("-->" : Text) <:+: c)
    (hmark : ¬ ("->" : Text) <+: rest) (hclose : ¬ (">" : Text) <+: rest) :
    afterComment (c ++ rest) = afterComment rest := by
  induction c with
  | nil => rfl
  | cons x c ih =>
    have hinner : ¬ ("-->" : Text) <:+: c := fun hc => h (hc.trans (List.suffix_cons x c).isInfix)
    have hstart : ¬ ("-->" : Text) <+: x :: (c ++ rest) := by
      intro hstarts
      match c, h, hstarts with
      | [], _, hstarts => exact hmark (List.cons_prefix_cons.1 hstarts).2
      | [y], _, hstarts =>
        exact hclose (List.cons_prefix_cons.1 (List.cons_prefix_cons.1 hstarts).2).2
      | y :: z :: c, h, hstarts =>
        refine h (List.IsPrefix.isInfix ?_)
        simpa using hstarts
    rw [List.cons_append, afterComment_cons hstart, ih hinner]

/-- A comment ends at its first `-->`. -/
theorem afterComment_append_mark {c : Text} (h : ¬ ("-->" : Text) <:+: c) (rest : Text) :
    afterComment (c ++ (("-->" : Text) ++ rest)) = rest := by
  rw [afterComment_append h (by simp) (by simp)]
  rfl

/-- Where `-->` occurs, there is a first one. -/
theorem exists_of_mark_isInfix {t : Text} (h : ("-->" : Text) <:+: t) :
    ∃ c rest, ¬ ("-->" : Text) <:+: c ∧ t = c ++ (("-->" : Text) ++ rest) := by
  induction t with
  | nil => simp at h
  | cons x t ih =>
    by_cases hstart : ("-->" : Text) <+: x :: t
    · obtain ⟨rest, heq⟩ := hstart
      exact ⟨[], rest, by simp, heq.symm⟩
    · obtain ⟨c, rest, hc, rfl⟩ := ih ((List.infix_cons_iff.1 h).resolve_left hstart)
      refine ⟨x :: c, rest, fun hoccurs => ?_, rfl⟩
      rcases List.infix_cons_iff.1 hoccurs with hstarts | hoccurs
      · exact hstart (hstarts.trans (List.prefix_append (x :: c) _))
      · exact hc hoccurs

/-- Up to the first `>`, only a `-->` that ends there counts. -/
theorem afterComment_append_close {u : Text} (h : .char '>' ∉ u) (rest : Text) :
    afterComment (u ++ .char '>' :: rest) =
      if ("--" : Text) <:+ u then rest else afterComment rest := by
  have hoccurs {v : Text} (hv : .char '>' ∉ v) : ¬ ("-->" : Text) <:+: v :=
    fun hoccurs => hv (hoccurs.subset (by simp))
  split
  · next hmark =>
    obtain ⟨c, rfl⟩ := hmark
    rw [List.append_assoc]
    exact afterComment_append_mark (hoccurs fun hc => h (List.mem_append_left _ hc)) rest
  · next hmark =>
    induction u with
    | nil => exact afterComment_cons (by simp)
    | cons x u ih =>
      have hstart : ¬ ("-->" : Text) <+: x :: (u ++ .char '>' :: rest) := by
        intro hstarts
        match u, h, hmark, hstarts with
        | [], _, _, hstarts => simp at hstarts
        | [y], _, hmark, hstarts =>
          obtain ⟨rfl, rfl, -⟩ : '-' = x ∧ '-' = y ∧ True := by simpa using hstarts
          exact hmark List.suffix_rfl
        | y :: z :: u, h, _, hstarts =>
          obtain ⟨-, -, rfl⟩ : '-' = x ∧ '-' = y ∧ '>' = z := by simpa using hstarts
          exact h (by simp)
      rw [List.mem_cons, not_or] at h
      rw [List.cons_append, afterComment_cons hstart]
      exact ih h.2 fun hsuffix => hmark (hsuffix.trans (List.suffix_cons x u))

/-! ## The first token -/

theorem token?_cons_of_ne {c : Code} (h : c ≠ '<') (rest : Text) :
    token? (c :: rest) = some (.other, rest) := by
  rw [token?] <;> simp [h]

theorem token?_comment {c : Text} (h : ¬ ("-->" : Text) <:+: c) (rest : Text) :
    token? (("<!--" : Text) ++ (c ++ (("-->" : Text) ++ rest))) = some (.other, rest) := by
  change some (Token.other, afterComment (c ++ (("-->" : Text) ++ rest))) = _
  rw [afterComment_append_mark h]

/-- The name of a closing tag is read up to its `>`. -/
theorem closing?_append (n : TagName) {gap : Text} (hgap : ∀ c ∈ gap, isBlank c = true)
    (rest : Text) : closing? (n.text ++ (gap ++ .char '>' :: rest)) = some (n.text, rest) := by
  obtain ⟨c, name, heq, hc, hname⟩ := n.exists_cons
  have hword : StartsOutside isWord (gap ++ .char '>' :: rest) := by
    cases gap with
    | nil => exact startsOutside_cons.2 (by decide)
    | cons d gap =>
      exact startsOutside_cons.2 (isWord_eq_false_of_isBlank (hgap d List.mem_cons_self))
  have hblank : StartsOutside isBlank (.char '>' :: rest) := startsOutside_cons.2 (by decide)
  rw [heq, List.cons_append, closing?, if_pos hc, dropWhile_append_of_startsOutside hname hword,
    dropWhile_append_of_startsOutside hgap hblank]
  exact congrArg (fun word => some (c :: word, rest))
    (takeWhile_append_of_startsOutside hname hword)

theorem Tag.endsWithSlash_text (tag : Tag) : endsWithSlash tag.text = tag.closesItself := by
  rw [endsWithSlash, text_eq_append, List.dropLast_concat, closesItself, ← List.cons_append,
    List.getLast?_append]
  cases hbody : tag.body.getLast? with
  | some c => rfl
  | none =>
    -- The body is empty, so the last character is one of the name.
    rw [Option.none_or]
    cases hname : (.char '<' :: tag.name.text).getLast? with
    | none => rfl
    | some c =>
      have hword := tag.name.isWord_of_getLast? hname
      by_cases hslash : c = '/'
      · subst hslash
        exact absurd hword (by decide)
      · simp [hslash]

/-- The token of an opening tag. -/
def Tag.token (tag : Tag) : Token := .opener (lower tag.name.text) tag.closesItself

theorem Tag.token?_text_append (tag : Tag) (rest : Text) :
    token? (tag.text ++ rest) = some (tag.token, rest) := by
  have hopening : opening? (tag.text ++ rest) = some (tag.token, rest) := by
    have hname := tag.tagName?_text_append []
    rw [List.append_nil] at hname
    simp only [opening?, Option.bind_eq_bind, tag.throughClose?_text_append, Option.bind_some,
      hname, tag.endsWithSlash_text, List.drop_left]
    rfl
  obtain ⟨c, name, heq, hc, -⟩ := tag.name.exists_cons
  have hslash : c ≠ '/' := by rintro rfl; exact absurd hc (by decide)
  have hbang : c ≠ '!' := by rintro rfl; exact absurd hc (by decide)
  rw [text_append, heq] at hopening ⊢
  rw [List.cons_append, token?, ← List.cons_append, hopening, Option.some_or]
  all_goals simp [hslash, hbang]

/-! ## Chains -/

/-- What is open after the tokens that start within `count` characters, outermost first, and the
tag behind them. The names in `stack` are open before, innermost first. -/
def chain (stack : List Text) (count : Nat) (t : Text) : List Text :=
  ((tokensWithin count t).foldl track stack).reverse ++
    ((tagName? (t.drop count)).map lower).toList

theorem ancestors_eq_chain (document : Text) (offset : Int) :
    ancestors document offset = chain [] (min offset.toNat document.length) document := rfl

@[simp] theorem tokensWithin_zero (t : Text) : tokensWithin 0 t = [] := by
  rw [tokensWithin, if_pos rfl]

/-- The first token and the tokens behind it. -/
theorem tokensWithin_eq {count : Nat} {t after : Text} {token : Token} (hcount : count ≠ 0)
    (h : token? t = some (token, after)) :
    tokensWithin count t =
      token :: tokensWithin (count - (t.length - after.length)) after := by
  rw [tokensWithin, if_neg hcount]
  split
  · next hnone => rw [h] at hnone; cases hnone
  · next hsome => rw [h] at hsome; cases hsome; rfl

variable {stack : List Text} {u back : Text} {token : Token}

theorem tokensWithin_append (h : token? (u ++ back) = some (token, back)) (k : Nat) :
    tokensWithin (u.length + k) (u ++ back) = token :: tokensWithin k back := by
  have hlength := length_of_token? h
  rw [List.length_append] at hlength
  have hcount : u.length + k - ((u ++ back).length - back.length) = k := by
    rw [List.length_append]
    omega
  rw [tokensWithin_eq (by omega) h, hcount]

/-- Reading a token moves the chain to the text behind it. -/
theorem chain_append (h : token? (u ++ back) = some (token, back)) (k : Nat) :
    chain stack (u.length + k) (u ++ back) = chain (track stack token) k back := by
  rw [chain, tokensWithin_append h, List.foldl_cons, List.drop_length_add_append]
  rfl

/-- Text in which no tag begins leaves everything open. -/
theorem chain_append_of_not_mem (h : .char '<' ∉ u) (k : Nat) :
    chain stack (u.length + k) (u ++ back) = chain stack k back := by
  induction u with
  | nil => rw [List.length_nil, Nat.zero_add, List.nil_append]
  | cons c u ih =>
    rw [List.mem_cons, not_or] at h
    have hstep : token? ([c] ++ (u ++ back)) = some (.other, u ++ back) :=
      token?_cons_of_ne (Ne.symm h.1) _
    have hchain : chain stack (1 + (u.length + k)) (c :: (u ++ back)) =
        chain stack (u.length + k) (u ++ back) := chain_append hstep _
    rw [List.length_cons, List.cons_append, Nat.add_right_comm, Nat.add_comm _ 1, hchain, ih h.2]

end MarkupNaming.Markup
