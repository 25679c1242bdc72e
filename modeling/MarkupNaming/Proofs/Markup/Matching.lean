import MarkupNaming.Proofs.Markup.Token
import Mathlib.Data.List.Sort

/-!
# Matching tags of one name

Which opening tags are left open, name by name. A closing tag goes with the last opening tag of its
name that is still open, so the tags of one name are matched among themselves, and tags of other
names, however they are nested, have no part in it. The open tags of a document are what these
matchings leave, put together in the order of the document.
-/
namespace MarkupNaming.Markup
open Text

/-! ## The tags of one name -/

namespace Token

/-- The name that a token opens. Tags of void elements and tags that close themselves open none. -/
def opened? : Token → Option Text
  | opener name closesItself => if closesItself || isVoid name then none else some name
  | _ => none

/-- Whether a token opens or closes a tag of a name. -/
def concerns (name : Text) (token : Token) : Bool :=
  token.opened? == some name || token == closer name

theorem isVoid_of_opened? {token : Token} {name : Text} (h : token.opened? = some name) :
    isVoid name = false := by
  cases token with
  | opener other closesItself =>
    rw [opened?, Option.ite_none_left_eq_some] at h
    obtain ⟨hopens, hname⟩ := h
    obtain rfl := Option.some.inj hname
    exact (Bool.or_eq_false_iff.1 (Bool.eq_false_iff.2 hopens)).2
  | closer other => cases h
  | other => cases h

end Token

/-- The tag that a token opens, with the place of the token. -/
def openingOf? (entry : Token × Nat) : Option (Text × Nat) := entry.1.opened?.map (·, entry.2)

/-- The tags that tokens open, with their places among the tokens. -/
def openings (tokens : List Token) : List (Text × Nat) := tokens.zipIdx.filterMap openingOf?

/-- The tokens that open or close a tag of a name, with their places among all tokens. -/
def tokensOf (name : Text) (tokens : List Token) : List (Token × Nat) :=
  tokens.zipIdx.filter (·.1.concerns name)

/-- Matching last in, first out: a closing tag takes away the place that came last. -/
def matchLast (places : List Nat) : Token × Nat → List Nat
  | (.closer _, _) => places.tail
  | (_, place) => place :: places

/-- The places of the opening tags of a name that are left when the tags of that name are matched,
the last one first. -/
def unmatched (name : Text) (tokens : List Token) : List Nat :=
  (tokensOf name tokens).foldl matchLast []

/-- Counting up for an opening tag and down for a closing tag, but not below zero. -/
def tally (count : Nat) : Token × Nat → Nat
  | (.closer _, _) => count - 1
  | _ => count + 1

/-! ## Open tags with their places -/

/-- The open tags after a token, innermost first, each with its place. -/
def trackPlaced (stack : List (Text × Nat)) : Token × Nat → List (Text × Nat)
  | (.closer name, _) => stack.eraseP (·.1 == name)
  | entry => (openingOf? entry).toList ++ stack

/-- The places of the open tags of a name. -/
def placesOf (name : Text) (stack : List (Text × Nat)) : List Nat :=
  (stack.filter (·.1 == name)).map Prod.snd

section Step
variable (stack : List (Text × Nat)) (entry : Token × Nat) (name : Text)

theorem map_fst_trackPlaced :
    (trackPlaced stack entry).map Prod.fst = track (stack.map Prod.fst) entry.1 := by
  obtain ⟨token, place⟩ := entry
  cases token with
  | opener other closesItself =>
    simp only [trackPlaced, track, openingOf?, Token.opened?]
    split <;> simp
  | closer other =>
    have hsame : (fun n => other == n) ∘ Prod.fst = fun o : Text × Nat => o.1 == other := by
      funext o
      exact Bool.beq_comm
    rw [trackPlaced, track, List.erase_eq_eraseP, List.eraseP_map, hsame]
  | other => rfl

/-- Taking away the innermost tag of a name leaves the places of the other names, and those of the
name itself but for the last one. -/
theorem placesOf_eraseP (other : Text) : placesOf name (stack.eraseP (·.1 == other)) =
    if other = name then (placesOf name stack).tail else placesOf name stack := by
  induction stack with
  | nil => simp [placesOf]
  | cons o stack ih =>
    unfold placesOf at ih ⊢
    by_cases hother : o.1 = other
    · subst hother
      rw [List.eraseP_cons_of_pos (by simp)]
      by_cases hname : o.1 = name <;> simp [hname]
    · rw [List.eraseP_cons_of_neg (by simpa using hother), List.filter_cons, List.filter_cons]
      by_cases hname : o.1 = name
      · subst hname
        simp [ih, Ne.symm hother]
      · simp [hname, ih]

/-- A token changes the places of its own name only. -/
theorem placesOf_trackPlaced : placesOf name (trackPlaced stack entry) =
    if entry.1.concerns name then matchLast (placesOf name stack) entry
    else placesOf name stack := by
  obtain ⟨token, place⟩ := entry
  cases token with
  | opener other closesItself =>
    simp only [trackPlaced, openingOf?]
    cases hopened : (Token.opener other closesItself).opened? with
    | none => simp [Token.concerns, hopened]
    | some opened =>
      by_cases hname : opened = name <;>
        simp [Token.concerns, hopened, hname, matchLast, placesOf]
  | closer other =>
    rw [trackPlaced, placesOf_eraseP]
    by_cases hname : other = name <;> simp [Token.concerns, Token.opened?, hname, matchLast]
  | other => simp [trackPlaced, openingOf?, Token.concerns, Token.opened?]

theorem trackPlaced_sublist :
    (trackPlaced stack entry).Sublist ((openingOf? entry).toList ++ stack) := by
  obtain ⟨token, place⟩ := entry
  cases token with
  | opener other closesItself => exact List.Sublist.refl _
  | closer other => exact List.eraseP_sublist
  | other => exact List.Sublist.refl _

theorem length_matchLast (places : List Nat) :
    (matchLast places entry).length = tally places.length entry := by
  obtain ⟨token, place⟩ := entry
  cases token <;> simp [matchLast, tally]

end Step

/-! ## Whole runs -/

section Run
variable (entries : List (Token × Nat)) (stack : List (Text × Nat)) (name : Text)

theorem map_fst_foldl_trackPlaced : (entries.foldl trackPlaced stack).map Prod.fst =
    (entries.map Prod.fst).foldl track (stack.map Prod.fst) := by
  induction entries generalizing stack with
  | nil => rfl
  | cons entry entries ih => rw [List.foldl_cons, ih, map_fst_trackPlaced]; rfl

/-- The places of one name come from the tokens of that name. -/
theorem placesOf_foldl_trackPlaced : placesOf name (entries.foldl trackPlaced stack) =
    (entries.filter (·.1.concerns name)).foldl matchLast (placesOf name stack) := by
  induction entries generalizing stack with
  | nil => rfl
  | cons entry entries ih =>
    rw [List.foldl_cons, ih, placesOf_trackPlaced, List.filter_cons]
    split <;> rfl

theorem foldl_trackPlaced_sublist : (entries.foldl trackPlaced stack).Sublist
    ((entries.filterMap openingOf?).reverse ++ stack) := by
  induction entries generalizing stack with
  | nil => exact List.Sublist.refl _
  | cons entry entries ih =>
    refine (ih (trackPlaced stack entry)).trans ?_
    refine (List.Sublist.append_left (trackPlaced_sublist stack entry) _).trans ?_
    rw [← List.append_assoc, List.filterMap_cons]
    cases openingOf? entry <;> simp

theorem length_foldl_matchLast (places : List Nat) :
    (entries.foldl matchLast places).length = entries.foldl tally places.length := by
  induction entries generalizing places with
  | nil => rfl
  | cons entry entries ih => rw [List.foldl_cons, List.foldl_cons, ih, length_matchLast]

end Run

/-! ## The open tags of a text -/

section Open
variable (tokens : List Token)

/-- The open tags behind a list of tokens, outermost first, each with its place. -/
def openPlaced : List (Text × Nat) := (tokens.zipIdx.foldl trackPlaced []).reverse

theorem map_fst_openPlaced :
    (openPlaced tokens).map Prod.fst = (tokens.foldl track []).reverse := by
  rw [openPlaced, List.map_reverse, map_fst_foldl_trackPlaced, List.zipIdx_map_fst]
  rfl

theorem openPlaced_sublist : (openPlaced tokens).Sublist (openings tokens) := by
  have hsub := foldl_trackPlaced_sublist tokens.zipIdx []
  rw [List.append_nil, ← List.reverse_sublist, List.reverse_reverse] at hsub
  exact hsub

theorem mem_openPlaced_iff {name : Text} {place : Nat} :
    (name, place) ∈ openPlaced tokens ↔ place ∈ unmatched name tokens := by
  have hplaces : placesOf name (tokens.zipIdx.foldl trackPlaced []) = unmatched name tokens :=
    placesOf_foldl_trackPlaced tokens.zipIdx [] name
  rw [openPlaced, List.mem_reverse, ← hplaces]
  simp [placesOf]

/-- The opening tags stand in the order of their places. -/
theorem pairwise_openings : (openings tokens).Pairwise fun o o' => o.2 < o'.2 := by
  have hplaces : tokens.zipIdx.Pairwise fun entry entry' => entry.2 < entry'.2 := by
    rw [← List.pairwise_map (f := Prod.snd), List.zipIdx_map_snd]
    exact List.pairwise_lt_range'
  refine hplaces.filterMap _ fun entry entry' hlt o ho o' ho' => ?_
  obtain ⟨-, -, rfl⟩ := Option.map_eq_some_iff.1 ho
  obtain ⟨-, -, rfl⟩ := Option.map_eq_some_iff.1 ho'
  exact hlt

/-- The open tags are the opening tags whose places are left by the matching of their names. -/
theorem openPlaced_eq_filter : openPlaced tokens =
    (openings tokens).filter fun o => decide (o.2 ∈ unmatched o.1 tokens) := by
  have hopenings := pairwise_openings tokens
  have hmem : ∀ o, o ∈ openPlaced tokens ↔
      o ∈ (openings tokens).filter fun o => decide (o.2 ∈ unmatched o.1 tokens) := by
    intro o
    rw [List.mem_filter, decide_eq_true_iff, ← mem_openPlaced_iff]
    exact ⟨fun h => ⟨(openPlaced_sublist tokens).subset h, h⟩, fun h => h.2⟩
  have hasymm : Std.Asymm fun o o' : Text × Nat => o.2 < o'.2 :=
    ⟨fun o o' h => Nat.lt_asymm h⟩
  have hirrefl : Std.Irrefl fun o o' : Text × Nat => o.2 < o'.2 :=
    ⟨fun o => Nat.lt_irrefl o.2⟩
  exact (hopenings.sublist (openPlaced_sublist tokens)).eq_of_mem_iff
    (hopenings.filter _) hmem

theorem count_openPlaced (name : Text) : ((openPlaced tokens).map Prod.fst).count name =
    (tokensOf name tokens).foldl tally 0 := by
  have hlength : ((tokens.zipIdx.foldl trackPlaced []).map Prod.fst).count name =
      (placesOf name (tokens.zipIdx.foldl trackPlaced [])).length := by
    rw [placesOf, List.length_map, List.count, List.countP_map, List.countP_eq_length_filter]
    rfl
  rw [openPlaced, List.map_reverse, List.count_reverse, hlength, placesOf_foldl_trackPlaced]
  exact length_foldl_matchLast (tokensOf name tokens) []

end Open

/-! ## The open tags of a document -/

/-- The tokens of a document that start in front of an offset. -/
def tokensBefore (document : Text) (offset : Int) : List Token :=
  tokensWithin (min offset.toNat document.length) document

/-- The names of the tags open at an offset, outermost first. -/
def enclosing (document : Text) (offset : Int) : List Text :=
  ((tokensBefore document offset).foldl track []).reverse

theorem isVoid_of_mem_openings {tokens : List Token} {o : Text × Nat} (h : o ∈ openings tokens) :
    isVoid o.1 = false := by
  obtain ⟨entry, -, hopening⟩ := List.mem_filterMap.1 h
  obtain ⟨name, hname, rfl⟩ := Option.map_eq_some_iff.1 hopening
  exact Token.isVoid_of_opened? hname

/-- The ancestors at an offset are the tags open there and the tag that starts there. The open tags
are, in the order of the document, the opening tags in front of the offset that are left when the
tags of each name are matched among themselves, last in, first out. So there are as many of a name
as a count of its own opening and closing tags gives, and none of them is void. -/
theorem enclosing_eq_unmatched (document : Text) (offset : Int) :
    ancestors document offset = enclosing document offset ++
        ((tagName? (document.drop (min offset.toNat document.length))).map lower).toList ∧
      (enclosing document offset).Sublist
        ((openings (tokensBefore document offset)).map Prod.fst) ∧
      enclosing document offset =
        ((openings (tokensBefore document offset)).filter fun o =>
          decide (o.2 ∈ unmatched o.1 (tokensBefore document offset))).map Prod.fst ∧
      (∀ name, (enclosing document offset).count name =
        (tokensOf name (tokensBefore document offset)).foldl tally 0) ∧
      ∀ name ∈ enclosing document offset, isVoid name = false := by
  have hplaced : enclosing document offset =
      (openPlaced (tokensBefore document offset)).map Prod.fst :=
    (map_fst_openPlaced _).symm
  refine ⟨rfl, ?_, ?_, fun name => ?_, fun name hname => ?_⟩
  · rw [hplaced]
    exact (openPlaced_sublist _).map _
  · rw [hplaced, openPlaced_eq_filter]
  · rw [hplaced, count_openPlaced]
  · rw [hplaced] at hname
    obtain ⟨o, ho, rfl⟩ := List.mem_map.1 hname
    exact isVoid_of_mem_openings ((openPlaced_sublist _).subset ho)

/-- The closing tag of the outer element takes nothing away from the inner ones. -/
theorem enclosing_eq_unmatched_italic :
    ancestors "<b><i></b></u><br><i><p>" 21 = [("i" : Text), ("i" : Text), ("p" : Text)] ∧
      (tokensOf "i" (tokensBefore "<b><i></b></u><br><i><p>" 21)).foldl tally 0 = 2 ∧
      unmatched "i" (tokensBefore "<b><i></b></u><br><i><p>" 21) = [5, 1] ∧
      isVoid "i" = false := by
  have hopen : enclosing "<b><i></b></u><br><i><p>" 21 = [("i" : Text), ("i" : Text)] := by
    decide +kernel
  obtain ⟨hancestors, -, -, hcount, hvoid⟩ :=
    enclosing_eq_unmatched "<b><i></b></u><br><i><p>" 21
  refine ⟨?_, ?_, by decide +kernel, hvoid _ (by rw [hopen]; exact List.mem_cons_self)⟩
  · rw [hancestors, hopen]
    decide
  · rw [← hcount, hopen]
    decide

end MarkupNaming.Markup
