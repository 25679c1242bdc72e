import MarkupNaming.Proofs.Settings.Selection

/-!
# Releases in order

Releases are kept in the order of their last days, and those without a day behind all others. The
order is stable: of the releases of one day, or of any other part of the list, it changes nothing
that was in order. So ordering a list does not change what applies, and a new release comes behind
those of its day.
-/
namespace MarkupNaming

namespace Release
variable {releases : List Release} {r s : Release} {today day : Date}

theorem orderDate_le_last (r : Release) : r.orderDate ≤ Date.last := by
  rw [orderDate]
  cases hday : r.expiryDate? with
  | none => exact Nat.le_refl _
  | some day => exact Date.le_last_of_ofText? hday

theorem noLater_trans (a b c : Release) (hab : a.noLater b = true) (hbc : b.noLater c = true) :
    a.noLater c = true :=
  noLater_iff.2 (Date.le_trans (noLater_iff.1 hab) (noLater_iff.1 hbc))

theorem noLater_total (a b : Release) : (a.noLater b || b.noLater a) = true := by
  rw [Bool.or_eq_true, noLater_iff, noLater_iff]
  exact Nat.le_total _ _

theorem perm_sorted (releases : List Release) : (sorted releases).Perm releases :=
  List.mergeSort_perm _ _

theorem pairwise_sorted (releases : List Release) :
    (sorted releases).Pairwise fun a b => a.noLater b = true :=
  List.pairwise_mergeSort noLater_trans noLater_total _

theorem sorted_eq_self (h : releases.Pairwise fun a b => a.noLater b = true) :
    sorted releases = releases :=
  List.mergeSort_of_pairwise h

/-- An ordered list falls into the releases before which another one does not belong, and those
before which it does. -/
theorem exists_sorted_cons (r : Release) (releases : List Release) :
    ∃ earlier others, sorted releases = earlier ++ others ∧
      sorted (r :: releases) = earlier ++ r :: others ∧
      (∀ s ∈ earlier, r.noLater s = false) ∧ ∀ s ∈ others, r.noLater s = true := by
  obtain ⟨earlier, others, hcons, hrest, hearlier⟩ :=
    List.mergeSort_cons noLater_trans noLater_total r releases
  have hpairwise := pairwise_sorted (r :: releases)
  rw [sorted, hcons, List.pairwise_append] at hpairwise
  exact ⟨earlier, others, hrest, hcons, fun s hs => by simpa using hearlier s hs,
    (List.pairwise_cons.1 hpairwise.2.1).1⟩

/-- A release in front of a list is put behind those that are earlier. -/
theorem sorted_cons {earlier others : List Release} (h : sorted releases = earlier ++ others)
    (hearlier : ∀ s ∈ earlier, r.noLater s = false) (hothers : ∀ s ∈ others, r.noLater s = true) :
    sorted (r :: releases) = earlier ++ r :: others := by
  obtain ⟨earlier', others', hrest, hcons, hearlier', hothers'⟩ := exists_sorted_cons r releases
  have hfront {a b : List Release} (ha : ∀ s ∈ a, r.noLater s = false)
      (hb : ∀ s ∈ b, r.noLater s = true) : (a ++ b).filter (!r.noLater ·) = a := by
    rw [List.filter_append, List.filter_eq_self.2, List.filter_eq_nil_iff.2, List.append_nil]
    · simpa using hb
    · simpa using ha
  obtain rfl : earlier' = earlier := by
    rw [← hfront hearlier' hothers', ← hrest, h, hfront hearlier hothers]
  rw [hcons, List.append_cancel_left (hrest.symm.trans h)]

/-- Ordering a part of a list gives the part of the ordered list. -/
theorem filter_sorted (p : Release → Bool) (releases : List Release) :
    (sorted releases).filter p = sorted (releases.filter p) := by
  induction releases with
  | nil => simp [sorted]
  | cons r releases ih =>
    obtain ⟨earlier, others, hrest, hcons, hearlier, hothers⟩ := exists_sorted_cons r releases
    rw [hrest, List.filter_append] at ih
    rw [hcons, List.filter_append, List.filter_cons, List.filter_cons]
    by_cases hr : p r = true
    · rw [if_pos hr, if_pos hr]
      exact (sorted_cons ih.symm (fun s hs => hearlier s (List.mem_filter.1 hs).1)
        fun s hs => hothers s (List.mem_filter.1 hs).1).symm
    · rw [if_neg hr, if_neg hr, ih]

/-- Ordering keeps the order of releases that may stand in any order. -/
theorem filter_sorted_eq {p : Release → Bool}
    (h : ∀ a b, p a = true → p b = true → a.noLater b = true) (releases : List Release) :
    (sorted releases).filter p = releases.filter p := by
  rw [filter_sorted, sorted_eq_self]
  exact List.pairwise_of_forall_mem_list fun a ha b hb =>
    h a b (List.mem_filter.1 ha).2 (List.mem_filter.1 hb).2

/-! ## What applies -/

/-- What is earliest in a list comes first when the list is ordered. -/
theorem earliest?_eq_head?_sorted (releases : List Release) :
    earliest? releases = (sorted releases).head? := by
  induction releases with
  | nil => simp [sorted, earliest?]
  | cons r releases ih =>
    obtain ⟨earlier, others, hrest, hcons, hearlier, hothers⟩ := exists_sorted_cons r releases
    rw [earliest?, ih, hrest, hcons]
    cases earlier with
    | nil =>
      cases others with
      | nil => rfl
      | cons s others => simp [hothers s List.mem_cons_self]
    | cons s earlier => simp [hearlier s List.mem_cons_self]

/-- Ordering a list does not change what applies. -/
theorem active?_sorted (releases : List Release) (today : Date) :
    active? (sorted releases) today = active? releases today := by
  rw [active?, filter_sorted, earliest?_eq_head?_sorted, sorted_eq_self (pairwise_sorted _),
    ← earliest?_eq_head?_sorted, active?]

/-! ## Adding a release -/

/-- Whether a release has not expired on a day, and no release of a list that has not expired
either expires up to its last day. -/
def Precedes (today : Date) (r : Release) (releases : List Release) : Prop :=
  ∃ day, r.expiryDate? = some day ∧ today ≤ day ∧
    ∀ s ∈ releases, ∀ d, s.expiryDate? = some d → today ≤ d → ¬ d ≤ day

theorem active?_concat_of_precedes (h : Precedes today r releases) :
    active? (releases ++ [r]) today = some r := by
  obtain ⟨day, hday, htoday, hothers⟩ := h
  refine active?_eq_some_iff.2 ⟨releases, [], day, rfl, hday, htoday, ?_, by simp⟩
  exact fun s hs d hd hle => Date.not_le.1 (hothers s hs d hd hle)

theorem active?_concat_of_not_precedes (h : ¬ Precedes today r releases) :
    active? (releases ++ [r]) today = active? releases today := by
  -- A last day of the new release that is not over is that of another one, or behind it.
  have hother {day : Date} (hday : r.expiryDate? = some day) (htoday : today ≤ day) :
      ∃ s ∈ releases, ∃ d, s.expiryDate? = some d ∧ today ≤ d ∧ d ≤ day :=
    Classical.byContradiction fun hnone =>
      h ⟨day, hday, htoday, fun s hs d hd hle hle' => hnone ⟨s, hs, d, hd, hle, hle'⟩⟩
  cases hactive : active? releases today with
  | none =>
    have hexpired := active?_eq_none_iff.1 hactive
    refine active?_eq_none_iff.2 (List.forall_mem_append.2 ⟨hexpired, ?_⟩)
    simp only [List.mem_singleton, forall_eq, Bool.eq_false_iff, ne_eq, isUnexpired_iff]
    rintro ⟨day, hday, htoday⟩
    obtain ⟨s, hs, d, hd, hle, -⟩ := hother hday htoday
    cases (hexpired s hs).symm.trans (isUnexpired_iff.2 ⟨d, hd, hle⟩)
  | some s =>
    obtain ⟨before, after, first, rfl, hfirst⟩ := exists_of_active? hactive
    refine active?_eq_some_iff.2 ⟨before, after ++ [r], first, by simp, hfirst.expiry,
      hfirst.unexpired, hfirst.lt_before, List.forall_mem_append.2 ⟨hfirst.le_after, ?_⟩⟩
    simp only [List.mem_singleton, forall_eq]
    intro day hday htoday
    obtain ⟨a, ha, d, hd, hle, hle'⟩ := hother hday htoday
    exact Date.le_trans (hfirst.le_of_mem ha hd hle) hle'

/-- Whether a list is another one with a release put in by its last day, behind those of the same
day. -/
structure IsInserted (r : Release) (old new : List Release) : Prop where
  perm : new.Perm (old ++ [r])
  inOrder : new.Pairwise fun a b => a.orderDate ≤ b.orderDate
  le_last : ∀ a ∈ new, a.orderDate ≤ Date.last
  others : ∀ day, day ≠ r.orderDate →
    new.filter (·.orderDate = day) = old.filter (·.orderDate = day)
  behind : new.filter (·.orderDate = r.orderDate) = old.filter (·.orderDate = r.orderDate) ++ [r]

/-- Of the releases of one day all keep their order. -/
theorem filter_orderDate_sorted (day : Date) (releases : List Release) :
    (sorted releases).filter (·.orderDate = day) = releases.filter (·.orderDate = day) := by
  refine filter_sorted_eq (fun a b ha hb => noLater_iff.2 ?_) releases
  rw [of_decide_eq_true ha, of_decide_eq_true hb]
  exact Nat.le_refl _

theorem isInserted_sorted (r : Release) (releases : List Release) :
    IsInserted r releases (sorted (releases ++ [r])) where
  perm := perm_sorted _
  inOrder := (pairwise_sorted _).imp noLater_iff.1
  le_last a _ := orderDate_le_last a
  others day hday := by
    rw [filter_orderDate_sorted, List.filter_append, List.filter_cons_of_neg, List.filter_nil,
      List.append_nil]
    simpa using hday.symm
  behind := by
    rw [filter_orderDate_sorted, List.filter_append, List.filter_cons_of_pos, List.filter_nil]
    simp

end Release

namespace Settings
open Release

variable {s : Settings} {r : Release} {day : Date}

theorem addRelease_of_none (h : r.expiryDate? = none) :
    s.addRelease r = .error (.invalidExpiry r) := by
  rw [addRelease, h]
  rfl

theorem addRelease_of_some (h : r.expiryDate? = some day) :
    s.addRelease r = .ok { s with releases := sorted (s.releases ++ [r]) } := by
  rw [addRelease, h]
  rfl

/-- Adding a release fails exactly if it has no last day. Else it is put in by its last day, applies
on the days on which it precedes all others and leaves what applies on other days. If the
releases of its name are removed again, the others are left in order. -/
theorem addRelease_isInserted (s : Settings) (r : Release) :
    ((∃ fault, s.addRelease r = .error fault) ↔ r.expiryDate? = none) ∧
    (∀ fault, s.addRelease r = .error fault → fault = .invalidExpiry r) ∧
    ∀ s', s.addRelease r = .ok s' →
      s' = { s with releases := s'.releases } ∧
      IsInserted r s.releases s'.releases ∧
      (∀ today, Precedes today r s.releases → active? s'.releases today = some r) ∧
      (∀ today, ¬ Precedes today r s.releases →
        active? s'.releases today = active? s.releases today) ∧
      (s'.removeRelease r.name).releases = (sorted s.releases).filter (·.name != r.name) := by
  cases hday : r.expiryDate? with
  | none =>
    rw [addRelease_of_none hday]
    exact ⟨iff_of_true ⟨_, rfl⟩ rfl, fun fault h => (Except.error.inj h).symm, nofun⟩
  | some day =>
    rw [addRelease_of_some hday]
    refine ⟨iff_of_false ?_ (Option.some_ne_none day), fun fault h => ?_, fun s' h => ?_⟩
    · rintro ⟨fault, h⟩
      cases h
    · cases h
    obtain rfl := Except.ok.inj h
    refine ⟨rfl, isInserted_sorted r s.releases, fun today hprecedes => ?_,
      fun today hlater => ?_, ?_⟩
    · exact (active?_sorted _ _).trans (active?_concat_of_precedes hprecedes)
    · exact (active?_sorted _ _).trans (active?_concat_of_not_precedes hlater)
    · change (sorted (s.releases ++ [r])).filter (·.name != r.name) = _
      rw [filter_sorted, filter_sorted, List.filter_append, List.filter_cons_of_neg,
        List.filter_nil, List.append_nil]
      simp

end Settings
end MarkupNaming
