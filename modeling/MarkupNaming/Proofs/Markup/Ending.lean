import MarkupNaming.Proofs.Markup.Attribute.Rescanning
import MarkupNaming.Proofs.Markup.Tag

/-!
# The ending of a tag

A new attribute belongs in front of the ending of a tag, which is blanks, at most one slash and the
`>`. It is found from behind: a text in front of an ending is what is left exactly if its own end is
not taken for a part of the ending.
-/
namespace MarkupNaming.Markup
open Text
variable {front ending t : Text}

theorem IsEnding.ne_nil (h : IsEnding t) : t ≠ [] := by
  obtain ⟨gap, -, rfl | rfl⟩ := h <;> simp

/-- Whether the end of a text is no part of the ending behind it: it is no blank, and no slash with
the `>` right behind it. -/
def IsClearOf (t ending : Text) : Prop :=
  ∀ c ∈ t.getLast?, isBlank c = false ∧ (c = '/' → ending ≠ [.char '>'])

/-- A text that ends in neither a blank nor a slash is clear of every ending. -/
theorem isClearOf_of_solid (h : ∀ c ∈ t.getLast?, isBlank c = false ∧ c ≠ '/') :
    IsClearOf t ending :=
  fun c hc => ⟨(h c hc).1, fun hslash => absurd hslash (h c hc).2⟩

theorem isClearOf_append_iff (ht : t ≠ []) :
    IsClearOf (front ++ t) ending ↔ IsClearOf t ending := by
  rw [IsClearOf, IsClearOf, List.getLast?_append, List.getLast?_eq_some_getLast ht, Option.some_or]

theorem IsClearOf.append (hfront : IsClearOf front ending) (ht : IsClearOf t ending) :
    IsClearOf (front ++ t) ending := by
  by_cases hnil : t = []
  · rwa [hnil, List.append_nil]
  · exact (isClearOf_append_iff hnil).2 ht

theorem insertOffset_concat (t : Text) : insertOffset (t ++ [Code.char '>']) =
    (trimEnd (if t.getLast? = some (.char '/') then t.dropLast else t)).length := by
  rw [insertOffset, if_pos List.getLast?_concat, List.dropLast_concat]

/-- A new attribute belongs between a text and an ending exactly if the text is clear of it. -/
theorem insertOffset_append_iff (hending : IsEnding ending) :
    insertOffset (front ++ ending) = front.length ↔ IsClearOf front ending := by
  obtain ⟨gap, hgap, hshape⟩ := hending
  -- With a blank or a slash of its own, the ending takes no slash from the text.
  have hkept (hne : ending ≠ [.char '>'])
      (hoffset : insertOffset (front ++ ending) = (trimEnd (front ++ gap)).length) :
      insertOffset (front ++ ending) = front.length ↔ IsClearOf front ending := by
    rw [hoffset, length_trimEnd_append_eq_iff hgap]
    exact forall₂_congr fun c _ => (and_iff_left fun _ => hne).symm
  rcases hshape with rfl | rfl
  · cases hlast : gap.getLast? with
    | none =>
      obtain rfl := List.getLast?_eq_none_iff.1 hlast
      rw [List.nil_append, insertOffset_concat]
      by_cases hslash : front.getLast? = some (.char '/')
      · have hle := length_trimEnd_le front.dropLast
        have hpos := List.length_pos_of_mem (List.mem_of_getLast? hslash)
        rw [List.length_dropLast] at hle
        rw [if_pos hslash]
        exact iff_of_false (by omega) fun h => (h '/' hslash).2 rfl rfl
      · rw [if_neg hslash, length_trimEnd_eq_iff]
        refine forall₂_congr fun c hc => (and_iff_left ?_).symm
        rintro rfl
        exact absurd hc hslash
    | some b =>
      have hslash : (front ++ gap).getLast? ≠ some (.char '/') := by
        rw [List.getLast?_append, hlast, Option.some_or, ne_eq, Option.some.injEq]
        rintro rfl
        exact absurd (hgap '/' (List.mem_of_getLast? hlast)) (by decide)
      refine hkept (fun h => ?_) ?_
      · obtain rfl : gap = [] := List.append_cancel_right (h.trans (List.nil_append _).symm)
        cases hlast
      · rw [← List.append_assoc, insertOffset_concat, if_neg hslash]
  · refine hkept (fun h => ?_) ?_
    · have hlength := congrArg List.length h
      simp at hlength
    · have hsplit : front ++ (gap ++ [Code.char '/', .char '>']) =
        ((front ++ gap) ++ [Code.char '/']) ++ [Code.char '>'] := by simp
      rw [hsplit, insertOffset_concat, if_pos List.getLast?_concat, List.dropLast_concat]

/-- Every text is parted into what is clear of an ending and what belongs to it. -/
theorem exists_clear_append (body : Text) : ∃ front back, body = front ++ back ∧
    IsClearOf front (back ++ [Code.char '>']) ∧ IsEnding (back ++ [Code.char '>']) := by
  by_cases hslash : body.getLast? = some (.char '/')
  · obtain ⟨body, rfl⟩ := List.getLast?_eq_some_iff.1 hslash
    obtain ⟨gap, hgap, heq⟩ := exists_trimEnd_append body
    refine ⟨trimEnd body, gap ++ [Code.char '/'], ?_,
      fun c hc => ⟨isBlank_of_getLast?_trimEnd hc, ?_⟩,
      ⟨gap, hgap, .inr (by simp)⟩⟩
    · rw [← List.append_assoc, ← heq]
    · intro _ h
      have hlength := congrArg List.length h
      simp at hlength
  · obtain ⟨gap, hgap, heq⟩ := exists_trimEnd_append body
    refine ⟨trimEnd body, gap, heq, fun c hc => ⟨isBlank_of_getLast?_trimEnd hc, ?_⟩,
      ⟨gap, hgap, .inl rfl⟩⟩
    rintro rfl h
    obtain rfl : gap = [] := List.append_cancel_right (h.trans (List.nil_append _).symm)
    rw [List.append_nil] at heq
    exact hslash (heq ▸ hc)

/-- The end of a name is no part of an ending. -/
theorem IsClearOf.behindName (h : IsClearOf t ending) (n : TagName) :
    IsClearOf (.char '<' :: (n.text ++ t)) ending := by
  have hname : IsClearOf (.char '<' :: n.text) ending := by
    refine isClearOf_of_solid fun c hc => ?_
    have hword := n.isWord_of_getLast? hc
    refine ⟨Bool.eq_false_iff.2 fun hblank => ?_, ?_⟩
    · rw [isWord_eq_false_of_isBlank hblank] at hword
      cases hword
    · rintro rfl
      exact absurd hword (by decide)
  exact hname.append h

/-- Behind a name, a new attribute belongs between what is clear of the ending and the ending. -/
theorem insertOffset_behindName (hclear : IsClearOf t ending) (hending : IsEnding ending)
    (n : TagName) : insertOffset (.char '<' :: (n.text ++ t) ++ ending) =
      1 + n.text.length + t.length := by
  rw [(insertOffset_append_iff hending).2 (hclear.behindName n), List.length_cons,
    List.length_append]
  omega

end MarkupNaming.Markup
