import MarkupNaming.Proofs.Markup.Relocation
import MarkupNaming.Proofs.Markup.Token

/-!
# Frames

Rewriting a tag changes what is open at no other place of a document, however broken its markup
is. In front of the tag a token ends before the tag, or it is a comment or an opening tag that
swallows the tag. A tag that closes neither comments nor itself in a new way is swallowed, or
read, just as before.
-/
namespace MarkupNaming.Markup
open Text

/-! ## Tokens in front of a `<` -/

theorem tagName?_append_open {u : Text} (h : u ≠ []) (rest : Text) :
    tagName? (u ++ .char '<' :: rest) = tagName? u := by
  have hword : StartsOutside isWord (.char '<' :: rest) := startsOutside_cons.2 (by decide)
  match u, h with
  | [c], _ =>
    by_cases hc : c = '<'
    · subst hc
      rfl
    · simp [tagName?, hc]
  | c :: d :: u, _ =>
    by_cases hc : c = '<'
    · subst hc
      rw [List.cons_append, List.cons_append, tagName?, tagName?, takeWhile_append u hword]
    · simp [tagName?, hc]

theorem opening?_eq_none {t : Text} (h : tagName? t = none) : opening? t = none := by
  cases hopening : opening? t with
  | none => rfl
  | some pair =>
    simp only [opening?, Option.bind_eq_bind, Option.bind_eq_some_iff] at hopening
    obtain ⟨u, hu, name, hname, -⟩ := hopening
    obtain ⟨tag, -, -, rest, rfl⟩ := Tag.exists_of_throughClose? hu hname
    rw [tag.tagName?_text_append] at h
    cases h

theorem closing?_append_open (u rest : Text) :
    closing? (u ++ .char '<' :: rest) = (closing? u).map fun (name, after) =>
      (name, after ++ .char '<' :: rest) := by
  have hword : StartsOutside isWord (.char '<' :: rest) := startsOutside_cons.2 (by decide)
  have hblank : StartsOutside isBlank (.char '<' :: rest) := startsOutside_cons.2 (by decide)
  cases u with
  | nil => rfl
  | cons c u =>
    rw [List.cons_append, closing?, closing?, dropWhile_append u hword,
      dropWhile_append _ hblank, takeWhile_append u hword]
    by_cases hc : isAsciiLetter c = true
    · rw [if_pos hc, if_pos hc]
      cases (u.dropWhile isWord).dropWhile isBlank with
      | nil => rfl
      | cons d after =>
        by_cases hd : d = '>'
        · subst hd
          rfl
        · simp [hd]
    · rw [if_neg hc, if_neg hc]
      rfl

/-- How a text that a `<` follows begins: with a token that ends in front of the `<`, within a
comment, or within an opening tag. -/
inductive Opens : Text → Prop
  | token {u : Text} (token : Token) (after : Text) (shorter : after.length < u.length)
    (reads : ∀ rest, token? (u ++ .char '<' :: rest) = some (token, after ++ .char '<' :: rest)) :
      Opens u
  | comment (c : Text) (unclosed : ¬ ("-->" : Text) <:+: c) : Opens (("<!--" : Text) ++ c)
  | tag (name : TagName) (body : Text) (unclosed : .char '>' ∉ body)
    (nameEnds : StartsOutside isWord body) : Opens (.char '<' :: (name.text ++ body))

theorem opens_of_name {u name : Text} (h : tagName? u = some name) : Opens u := by
  obtain ⟨n, -, tail, rfl, htail⟩ := TagName.exists_of_tagName? h
  by_cases hclose : .char '>' ∈ tail
  · obtain ⟨hbody, after, heq⟩ := exists_takeWhile_ne hclose
    generalize tail.takeWhile (· != .char '>') = body at hbody heq
    subst heq
    have hends : StartsOutside isWord body := by
      cases body with
      | nil => exact startsOutside_nil
      | cons c body => exact startsOutside_cons.2 (startsOutside_cons.1 htail)
    have htext := Tag.text_append ⟨n, body, hbody, hends⟩ after
    rw [← htext]
    refine .token (Tag.token ⟨n, body, hbody, hends⟩) after ?_ fun rest => ?_
    · rw [List.length_append, Tag.length_text]
      omega
    · rw [List.append_assoc, Tag.token?_text_append]
  · exact .tag n tail hclose htail

theorem opens_of_slash (u : Text) : Opens (.char '<' :: .char '/' :: u) := by
  cases hclosing : closing? u with
  | none =>
    refine .token .other (.char '/' :: u) (by simp) fun rest => ?_
    have hrest := closing?_append_open u rest
    rw [hclosing, Option.map_none] at hrest
    simp [token?, hrest]
  | some found =>
    obtain ⟨name, after⟩ := found
    have hshorter := length_of_closing? hclosing
    refine .token (.closer (lower name)) after ?_ fun rest => ?_
    · simp only [List.length_cons]
      omega
    · have hrest := closing?_append_open u rest
      rw [hclosing, Option.map_some] at hrest
      simp [token?, hrest]

theorem opens_of_dashes (c : Text) : Opens (("<!--" : Text) ++ c) := by
  by_cases hmark : ("-->" : Text) <:+: c
  · obtain ⟨front, after, hfirst, rfl⟩ := exists_of_mark_isInfix hmark
    refine .token .other after ?_ fun rest => ?_
    · simp only [List.length_append]
      have : 0 < ("-->" : Text).length := by decide
      omega
    · rw [List.append_assoc, List.append_assoc, List.append_assoc]
      exact token?_comment hfirst _
  · exact .comment c hmark

theorem mark_isPrefix_of_append_open {mark u rest : Text} (h : .char '<' ∉ mark)
    (hstarts : mark <+: u ++ .char '<' :: rest) : mark <+: u := by
  rcases List.prefix_or_prefix_of_prefix hstarts (List.prefix_append u _) with hmark | hmark
  · exact hmark
  · obtain ⟨v, rfl⟩ := hmark
    cases v with
    | nil => simp
    | cons c v =>
      rw [List.prefix_append_right_inj, List.cons_prefix_cons] at hstarts
      exact absurd (by simp [hstarts.1]) h

/-- A `<` that begins none of these is a token of its own. -/
theorem opens_of_other {u : Text} (hname : tagName? (.char '<' :: u) = none)
    (hslash : ¬ ("/" : Text) <+: u) (hdashes : ¬ ("!--" : Text) <+: u) :
      Opens (.char '<' :: u) := by
  refine .token .other u (by simp) fun rest => ?_
  have hopening : opening? (.char '<' :: (u ++ .char '<' :: rest)) = none := by
    refine opening?_eq_none ?_
    rw [← List.cons_append, tagName?_append_open (List.cons_ne_nil _ u), hname]
  have hdashes' (v : Text) : u ++ .char '<' :: rest ≠ .char '!' :: .char '-' :: .char '-' :: v := by
    intro heq
    have hstarts : ("!--" : Text) <+: u ++ .char '<' :: rest := ⟨v, heq.symm⟩
    exact hdashes (mark_isPrefix_of_append_open (by decide) hstarts)
  have hslash' (v : Text) : u ++ .char '<' :: rest ≠ .char '/' :: v := by
    intro heq
    have hstarts : ("/" : Text) <+: u ++ .char '<' :: rest := ⟨v, heq.symm⟩
    exact hslash (mark_isPrefix_of_append_open (by decide) hstarts)
  rw [List.cons_append]
  generalize u ++ .char '<' :: rest = t at hopening hdashes' hslash'
  by_cases hbang : ∃ v, t = .char '!' :: v
  · obtain ⟨v, rfl⟩ := hbang
    rw [token?]
    rintro w rfl
    exact hdashes' w rfl
  · rw [token?, hopening, Option.none_or]
    · exact hdashes'
    · exact hslash'
    · exact fun v heq => hbang ⟨v, heq⟩

/-- Every text opens in one of these ways. -/
theorem opens_of_ne_nil {u : Text} (h : u ≠ []) : Opens u := by
  obtain ⟨c, u, rfl⟩ := List.exists_cons_of_ne_nil h
  by_cases hc : c = '<'
  · subst hc
    cases hname : tagName? (.char '<' :: u) with
    | some name => exact opens_of_name hname
    | none =>
      by_cases hslash : ("/" : Text) <+: u
      · obtain ⟨u, rfl⟩ := hslash
        exact opens_of_slash u
      · by_cases hdashes : ("!--" : Text) <+: u
        · obtain ⟨u, rfl⟩ := hdashes
          exact opens_of_dashes u
        · exact opens_of_other hname hslash hdashes
  · exact .token .other u (by simp) fun rest => token?_cons_of_ne hc _

/-! ## Swallowed tags -/

namespace Tag
variable (tag : Tag)

/-- Whether the tag ends a comment in which it stands. -/
def ClosesComment : Prop := ("--" : Text) <:+ tag.body

instance : Decidable tag.ClosesComment := inferInstanceAs (Decidable (("--" : Text) <:+ tag.body))

theorem dashes_isSuffix_iff :
    ("--" : Text) <:+ .char '<' :: (tag.name.text ++ tag.body) ↔ tag.ClosesComment := by
  rw [← List.cons_append]
  constructor
  · rintro ⟨u, heq⟩
    obtain ⟨v, hname, hbody⟩ | ⟨v, -, hbody⟩ := List.append_eq_append_iff.1 heq
    · -- A dash of the name would be its last character.
      cases hlast : v.getLast? with
      | none =>
        rw [List.getLast?_eq_none_iff.1 hlast] at hbody
        exact ⟨[], hbody⟩
      | some c =>
        have hword : isWord c = true := by
          refine tag.name.isWord_of_getLast? ?_
          rw [hname, List.getLast?_append, hlast, Option.some_or]
        have hdash : c ∈ ("--" : Text) := by
          rw [hbody]
          exact List.mem_append_left _ (List.mem_of_getLast? hlast)
        obtain rfl : c = '-' := by simpa using hdash
        exact absurd hword (by decide)
    · exact ⟨v, hbody.symm⟩
  · intro h
    exact h.trans (List.suffix_append _ _)

/-- A tag ends a comment exactly if it ends in `-->`. -/
theorem mark_isSuffix_text_iff : ("-->" : Text) <:+ tag.text ↔ tag.ClosesComment := by
  rw [← dashes_isSuffix_iff, text_eq_append, List.suffix_concat_iff]
  constructor
  · rintro (h | ⟨u, hu, h⟩)
    · cases h
    · have hsplit : ("--" : Text) ++ [Code.char '>'] = u ++ [Code.char '>'] := hu
      obtain ⟨rfl, -⟩ := List.append_inj' hsplit rfl
      exact h
  · intro h
    exact .inr ⟨_, rfl, h⟩

/-- A comment goes on behind a tag in it that does not end it. -/
theorem token?_comment_text {c : Text} (h : ¬ ("-->" : Text) <:+: c) (after : Text) :
    token? (("<!--" : Text) ++ c ++ (tag.text ++ after)) =
      some (.other, if tag.ClosesComment then after else afterComment after) := by
  have hfront := afterComment_append_close tag.not_mem_front after
  have hopen : tag.text ++ after =
      .char '<' :: (tag.name.text ++ tag.body) ++ .char '>' :: after := by
    simp [text]
  simp only [dashes_isSuffix_iff] at hfront
  change some (Token.other, afterComment (c ++ (tag.text ++ after))) = _
  rw [hopen, afterComment_append h (by simp) (by simp), hfront]

/-- The tag of an opening tag without a `>` in front of a tag. -/
def swallowedBy (name : TagName) (body : Text) (unclosed : .char '>' ∉ body)
    (nameEnds : StartsOutside isWord body) : Tag where
  name := name
  body := body ++ .char '<' :: (tag.name.text ++ tag.body)
  notClosed := by
    have hfront := tag.not_mem_front
    simp only [List.mem_append, not_or]
    exact ⟨unclosed, hfront⟩
  nameEnds := by
    cases body with
    | nil => exact startsOutside_cons.2 (by decide)
    | cons c body => exact startsOutside_cons.2 (startsOutside_cons.1 nameEnds)

section SwallowedBy
variable {name : TagName} {body : Text} {unclosed : .char '>' ∉ body}
  {nameEnds : StartsOutside isWord body}

theorem text_swallowedBy : (tag.swallowedBy name body unclosed nameEnds).text =
    .char '<' :: (name.text ++ body) ++ tag.text := by
  simp [text, swallowedBy]

theorem token_swallowedBy : (tag.swallowedBy name body unclosed nameEnds).token =
    .opener (lower name.text) tag.closesItself := by
  have hslash : (tag.swallowedBy name body unclosed nameEnds).closesItself =
      tag.closesItself := by
    rw [← tag.endsWithSlash_text, endsWithSlash, text_eq_append, List.dropLast_concat,
      closesItself, swallowedBy, List.getLast?_append, List.getLast?_cons, Option.some_or]
  rw [token, hslash]
  rfl

end SwallowedBy

/-! ## Rewritten tags -/

/-- A tag that is the same token as another one. -/
structure Alike (tag tag' : Tag) : Prop where
  name_eq : tag'.name = tag.name
  closesItself_eq : tag'.closesItself = tag.closesItself

variable {tag} {tag' : Tag}

/-- The first token in front of alike tags ends in front of them, or behind both. -/
theorem Alike.token?_before (h : Alike tag tag') (after after' : Text) {before : Text}
    (hne : before ≠ []) :
    (∃ token rest, rest.length < before.length ∧
      token? (before ++ (tag.text ++ after)) = some (token, rest ++ (tag.text ++ after)) ∧
      token? (before ++ (tag'.text ++ after')) = some (token, rest ++ (tag'.text ++ after'))) ∨
    (∃ token rest rest', rest.length ≤ after.length ∧ rest'.length ≤ after'.length ∧
      token? (before ++ (tag.text ++ after)) = some (token, rest) ∧
      token? (before ++ (tag'.text ++ after')) = some (token, rest') ∧
      (after' = after → (tag'.ClosesComment ↔ tag.ClosesComment) → rest' = rest)) := by
  cases opens_of_ne_nil hne with
  | token token rest shorter reads =>
    exact .inl ⟨token, rest, shorter, by rw [tag.text_append, reads],
      by rw [tag'.text_append, reads]⟩
  | comment c unclosed =>
    have hle (tag : Tag) (after : Text) :
        (if tag.ClosesComment then after else afterComment after).length ≤ after.length := by
      split
      · exact Nat.le_refl _
      · exact length_afterComment_le after
    refine .inr ⟨.other, _, _, hle tag after, hle tag' after',
      tag.token?_comment_text unclosed after, tag'.token?_comment_text unclosed after', ?_⟩
    intro hafter hiff
    simp only [hafter, hiff]
  | tag name body unclosed nameEnds =>
    have reads (tag : Tag) (after : Text) :
        token? (.char '<' :: (name.text ++ body) ++ (tag.text ++ after)) =
          some (.opener (lower name.text) tag.closesItself, after) := by
      have htoken := (tag.swallowedBy name body unclosed nameEnds).token?_text_append after
      rw [token_swallowedBy, text_swallowedBy, List.append_assoc] at htoken
      exact htoken
    exact .inr ⟨_, after, after', Nat.le_refl _, Nat.le_refl _, reads tag after,
      by rw [reads tag' after', h.closesItself_eq], fun hafter _ => hafter⟩

/-- The tokens in front of a tag depend neither on its body nor on what stands behind it. -/
theorem Alike.tokensWithin_before (h : Alike tag tag') (after after' : Text) {before : Text}
    {count : Nat} (hcount : count ≤ before.length) :
    tokensWithin count (before ++ (tag'.text ++ after')) =
      tokensWithin count (before ++ (tag.text ++ after)) := by
  induction hlength : before.length using Nat.strongRecOn generalizing before count with
  | ind n ih =>
    subst hlength
    by_cases hzero : count = 0
    · rw [hzero, tokensWithin_zero, tokensWithin_zero]
    have hne : before ≠ [] := by
      rintro rfl
      exact hzero (Nat.le_zero.1 hcount)
    obtain ⟨token, rest, hshorter, hread, hread'⟩ |
      ⟨token, rest, rest', hle, hle', hread, hread', -⟩ := h.token?_before after after' hne
    · have hleft (t : Text) : count - ((before ++ t).length - (rest ++ t).length) =
          count - (before.length - rest.length) := by
        simp only [List.length_append]
        omega
      rw [tokensWithin_eq hzero hread', tokensWithin_eq hzero hread, hleft, hleft,
        ih rest.length hshorter (by omega) rfl]
    · have hnone {t u : Text} (hu : u.length ≤ t.length) :
          count - ((before ++ t).length - u.length) = 0 := by
        rw [List.length_append]
        omega
      have hbehind (tag : Tag) {u after : Text} (hu : u.length ≤ after.length) :
          u.length ≤ (tag.text ++ after).length := by
        rw [List.length_append]
        omega
      rw [tokensWithin_eq hzero hread', tokensWithin_eq hzero hread, hnone (hbehind tag' hle'),
        hnone (hbehind tag hle), tokensWithin_zero, tokensWithin_zero]

/-- The tokens through a tag and behind it are the same for alike tags. -/
theorem Alike.tokensWithin_behind (h : Alike tag tag')
    (hcomment : tag'.ClosesComment ↔ tag.ClosesComment) (before after : Text) (k : Nat) :
    tokensWithin (before.length + (tag'.text.length + k)) (before ++ (tag'.text ++ after)) =
      tokensWithin (before.length + (tag.text.length + k)) (before ++ (tag.text ++ after)) := by
  induction hlength : before.length using Nat.strongRecOn generalizing before with
  | ind n ih =>
    subst hlength
    by_cases hne : before = []
    · subst hne
      have htoken : tag'.token = tag.token := by rw [token, token, h.name_eq, h.closesItself_eq]
      rw [List.length_nil, Nat.zero_add, Nat.zero_add, List.nil_append, List.nil_append,
        tokensWithin_append (tag'.token?_text_append after),
        tokensWithin_append (tag.token?_text_append after), htoken]
    have hpos : before.length ≠ 0 := fun hzero => hne (List.length_eq_zero_iff.1 hzero)
    obtain ⟨token, rest, hshorter, hread, hread'⟩ |
      ⟨token, rest, rest', hle, -, hread, hread', heq⟩ := h.token?_before after after hne
    · have hleft (t : Text) (k : Nat) :
          before.length + k - ((before ++ t).length - (rest ++ t).length) = rest.length + k := by
        simp only [List.length_append]
        omega
      rw [tokensWithin_eq (by omega) hread', tokensWithin_eq (by omega) hread, hleft, hleft,
        ih rest.length hshorter rest rfl]
    · obtain rfl := heq rfl hcomment
      have hleft (t : Text) : before.length + (t.length + k) -
          ((before ++ (t ++ after)).length - rest'.length) =
            k - (after.length - rest'.length) := by
        simp only [List.length_append]
        omega
      rw [tokensWithin_eq (by omega) hread', tokensWithin_eq (by omega) hread, hleft, hleft]

/-- In front of a tag and at its start, the ancestors depend neither on its body nor on what
stands behind it. -/
theorem Alike.ancestors_in_front (h : Alike tag tag') (before after after' : Text) {o : Int}
    (ho : o ≤ before.length) :
    ancestors (before ++ (tag'.text ++ after')) o =
      ancestors (before ++ (tag.text ++ after)) o := by
  have hle : o.toNat ≤ before.length := by omega
  have hlimit (t : Text) : min o.toNat (before ++ t).length = o.toNat := by
    rw [List.length_append]
    omega
  have hname : tagName? (before.drop o.toNat ++ (tag'.text ++ after')) =
      tagName? (before.drop o.toNat ++ (tag.text ++ after)) := by
    by_cases hend : before.drop o.toNat = []
    · rw [hend, List.nil_append, List.nil_append, tagName?_text_append, tagName?_text_append,
        h.name_eq]
    · rw [text_append, text_append, tagName?_append_open hend, tagName?_append_open hend]
  rw [ancestors_eq_chain, ancestors_eq_chain, hlimit, hlimit, chain, chain,
    h.tokensWithin_before after after' hle, List.drop_append_of_le_length hle,
    List.drop_append_of_le_length hle, hname]

/-- In front of a tag and at its start, the ancestors do not depend on its body. -/
theorem Alike.ancestors_before (h : Alike tag tag') (before after : Text) {o : Int}
    (ho : o ≤ before.length) :
    ancestors (before ++ (tag'.text ++ after)) o = ancestors (before ++ (tag.text ++ after)) o :=
  h.ancestors_in_front before after after ho

/-- In front of a tag and at its start, the ancestors do not depend on what stands behind it. -/
theorem ancestors_append_eq (tag : Tag) (before after after' : Text) {o : Int}
    (ho : o ≤ before.length) :
    ancestors (before ++ (tag.text ++ after')) o = ancestors (before ++ (tag.text ++ after)) o :=
  Alike.ancestors_in_front ⟨rfl, rfl⟩ before after after' ho

/-- Behind a tag, the ancestors are the same for alike tags. -/
theorem Alike.ancestors_behind (h : Alike tag tag')
    (hcomment : tag'.ClosesComment ↔ tag.ClosesComment) (before after : Text) (k : Nat) :
    ancestors (before ++ (tag'.text ++ after)) (before.length + tag'.text.length + k : Nat) =
      ancestors (before ++ (tag.text ++ after)) (before.length + tag.text.length + k : Nat) := by
  have hlimit (t : Text) : min (before.length + t.length + k : Nat)
      (before ++ (t ++ after)).length = before.length + (t.length + min k after.length) := by
    simp only [List.length_append]
    omega
  rw [ancestors_eq_chain, ancestors_eq_chain, Int.toNat_natCast, Int.toNat_natCast, hlimit,
    hlimit, chain, chain, h.tokensWithin_behind hcomment, List.drop_length_add_append,
    List.drop_length_add_append, List.drop_length_add_append, List.drop_length_add_append]

/-! ## Adding a class -/

/-- A tag ends as what stands behind the last quote in it. -/
theorem closesItself_of_quote {front back : Text} {q : Code} (hq : q ≠ '/')
    (h : tag.body = front ++ q :: back) :
      tag.closesItself = (back.getLast? == some (.char '/')) := by
  rw [closesItself, h, List.getLast?_append, List.getLast?_cons, Option.some_or]
  cases back.getLast? with
  | none => simpa using hq
  | some c => rfl

theorem closesComment_iff_of_quote {front back : Text} {q : Code} (hq : q ≠ '-')
    (h : tag.body = front ++ q :: back) : tag.ClosesComment ↔ ("--" : Text) <:+ back := by
  rw [ClosesComment, h]
  constructor
  · intro hsuffix
    rcases List.suffix_or_suffix_of_suffix hsuffix (List.suffix_append front _) with hback | hback
    · rcases List.suffix_cons_iff.1 hback with heq | hback
      · exact absurd (List.cons.inj heq).1.symm hq
      · exact hback
    · have hmem : q ∈ ("--" : Text) := hback.subset List.mem_cons_self
      exact absurd (by simpa using hmem) hq
  · intro hback
    exact hback.trans ((List.suffix_cons q back).trans (List.suffix_append front _))

end Tag

namespace Tag
variable {tag tag' : Tag} {name new : Text} {update : Text → Text}

theorem getLast?_ending : (tag.ending.getLast? == some (.char '/')) = tag.closesItself := by
  obtain ⟨gap, hgap, hending⟩ := tag.exists_ending_eq
  rw [hending]
  cases tag.closesItself with
  | true => simp
  | false =>
    rw [if_neg Bool.false_ne_true, List.append_nil]
    cases hlast : gap.getLast? with
    | none => rfl
    | some c =>
      have hblank := hgap c (List.mem_of_getLast? hlast)
      by_cases hc : c = '/'
      · subst hc
        exact absurd hblank (by decide)
      · simp [hc]

theorem not_mem_ending : .char '-' ∉ tag.ending := by
  obtain ⟨gap, hgap, hending⟩ := tag.exists_ending_eq
  rw [hending, List.mem_append, not_or]
  constructor
  · intro hmem
    exact absurd (hgap '-' hmem) (by decide)
  · split <;> simp

/-- Where an attribute is set that is new or in quotes, the end of the tag stays behind a quote. -/
theorem Sets.exists_quote (h : tag.Sets name new update tag')
    (quoted : ∀ e, tag.written? name = some e → e.2.quote ≠ .bare) :
    tag' = tag ∨ (∃ front, tag'.body = front ++ .char '"' :: tag.ending) ∨
      ∃ (front front' : Text) (q : Code) (back : Text), q ≠ '/' ∧ q ≠ '-' ∧
        tag.body = front ++ q :: back ∧
        tag'.body = front' ++ q :: back := by
  cases h with
  | kept => exact .inl rfl
  | added absent h =>
    refine .inr (.inl ⟨tag.stem ++ .char ' ' :: (newAttribute name new).opening ++
      escapeFor .double new, ?_⟩)
    simp [insert, withBody, Attribute.text, newAttribute, Quote.mark]
  | @updated front back a found hbody hfront h =>
    have hquoted : a.quote ≠ .bare := quoted _ found
    obtain ⟨q, hmark, henclosing, hslash, hdash⟩ := Quote.exists_mark_eq hquoted
    have hmark' : (a.withValue (update a.value)).quote.mark = [q] := by
      change a.quote.enclosing.mark = [q]
      rw [henclosing, hmark]
    refine .inr (.inr ⟨front ++ (a.opening ++ a.value), front ++
      ((a.withValue (update a.value)).opening ++ (a.withValue (update a.value)).value), q, back,
      hslash, hdash, ?_, ?_⟩)
    · rw [hbody, Attribute.text, hmark]
      simp
    · change front ++ ((a.withValue (update a.value)).text ++ back) = _
      rw [Attribute.text, hmark']
      simp

/-- Setting an attribute that is new or in quotes gives an alike tag. -/
theorem Sets.alike (h : tag.Sets name new update tag')
    (quoted : ∀ e, tag.written? name = some e → e.2.quote ≠ .bare) : tag.Alike tag' := by
  refine ⟨h.name_eq, ?_⟩
  obtain rfl | ⟨front, hbody'⟩ | ⟨front, front', q, back, hslash, -, hbody, hbody'⟩ :=
    h.exists_quote quoted
  · rfl
  · rw [closesItself_of_quote (by decide) hbody', getLast?_ending]
  · rw [closesItself_of_quote hslash hbody', closesItself_of_quote hslash hbody]

/-- Setting such an attribute makes no tag end a comment. -/
theorem Sets.closesComment (h : tag.Sets name new update tag')
    (quoted : ∀ e, tag.written? name = some e → e.2.quote ≠ .bare) (hc : tag'.ClosesComment) :
    tag.ClosesComment := by
  obtain rfl | ⟨front, hbody'⟩ | ⟨front, front', q, back, -, hdash, hbody, hbody'⟩ :=
    h.exists_quote quoted
  · exact hc
  · have hdashes := (closesComment_iff_of_quote (by decide) hbody').1 hc
    exact absurd (hdashes.subset (by simp)) not_mem_ending
  · exact (closesComment_iff_of_quote hdash hbody).2
      ((closesComment_iff_of_quote hdash hbody').1 hc)

/-- Whether the attribute of a name is absent or in quotes can be told from the spans. -/
theorem quoted_of_element {start : Nat} {marker : Text}
    (h : ∀ span, (tag.element start marker).attribute? name = some span → span.isQuoted = true) :
    ∀ e, tag.written? name = some e → e.2.quote ≠ .bare := by
  intro e he hbare
  have hquoted := h _ (by rw [attribute?_element, he]; rfl)
  simp [AttributeSpan.isQuoted, AttributeSpan.map, Attribute.span, hbare] at hquoted

end Tag

/-- Adding a class to an element leaves the ancestors of every other place as they were, however
the document is made, unless the class is replaced in a bare value or the tag ends in `-->`. -/
theorem ancestors_apply_buildEdit {document marker newClass : Text} {offset : Int} {e : Element}
    (located : locate? document offset marker = some e)
    (quoted : ∀ span, e.classSpan? = some span → span.isQuoted = true)
    (hcomment : ¬ ("-->" : Text) <:+ e.tagText document) (hclass : .char '>' ∉ newClass) :
    (∀ o : Int, o ≤ e.start →
      ancestors ((buildEdit document e newClass).apply document) o = ancestors document o) ∧
    (∀ o : Int, e.stop ≤ o →
      ancestors ((buildEdit document e newClass).apply document)
          (o + (((buildEdit document e newClass).apply document).length - document.length)) =
        ancestors document o) := by
  obtain ⟨front, tag, back, rfl, rfl⟩ := Tag.exists_of_locate? located
  obtain ⟨tag', hsets, heq⟩ := Tag.exists_sets_applyClass tag front.length marker hclass
  have hquoted := Tag.quoted_of_element quoted
  have halike := hsets.alike hquoted
  rw [Tag.tagText_element, Tag.mark_isSuffix_text_iff] at hcomment
  have hiff : tag'.ClosesComment ↔ tag.ClosesComment :=
    ⟨hsets.closesComment hquoted, fun h => absurd h hcomment⟩
  rw [apply_buildEdit, Tag.replacement_buildEdit_nil front back marker newClass none rfl, heq,
    Tag.splice_element]
  constructor
  · intro o ho
    exact halike.ancestors_before front back ho
  · intro o ho
    have ho : ((front.length + tag.text.length : Nat) : Int) ≤ o := ho
    obtain ⟨k, rfl⟩ := Int.le.dest ho
    have hmoved : ((front.length + tag.text.length : Nat) : Int) + k +
        (((front ++ (tag'.text ++ back)).length : Int) - (front ++ (tag.text ++ back)).length) =
          (front.length + tag'.text.length + k : Nat) := by
      simp only [List.length_append]
      omega
    rw [hmoved, halike.ancestors_behind hiff]
    rfl

theorem ancestors_apply_buildEdit_paragraph :
    ∃ e, locate? ("<i><p class='a'>x<b>" : Text) 5 = some e ∧
      (buildEdit "<i><p class='a'>x<b>" e "c").apply "<i><p class='a'>x<b>" =
        ("<i><p class='a c'>x<b>" : Text) ∧
      ancestors "<i><p class='a c'>x<b>" 3 = ancestors "<i><p class='a'>x<b>" 3 ∧
      ancestors "<i><p class='a c'>x<b>" 19 = ancestors "<i><p class='a'>x<b>" 17 := by
  have located : locate? ("<i><p class='a'>x<b>" : Text) 5 =
      some ⟨"p", 3, 16, [⟨"class", "a", 6, 15, 13, 14, .single⟩], defaultPathMarker⟩ := by
    decide +kernel
  have edited : (buildEdit "<i><p class='a'>x<b>"
      ⟨"p", 3, 16, [⟨"class", "a", 6, 15, 13, 14, .single⟩], defaultPathMarker⟩ "c").apply
        "<i><p class='a'>x<b>" = ("<i><p class='a c'>x<b>" : Text) := by
    decide
  refine ⟨_, located, edited, ?_⟩
  have frame := ancestors_apply_buildEdit located
    (by intro span hspan; cases hspan; rfl) (by decide +kernel)
    (by decide : .char '>' ∉ ("c" : Text))
  rw [edited] at frame
  exact ⟨frame.1 3 (by decide), frame.2 17 (by decide)⟩

end MarkupNaming.Markup
