import MarkupNaming.Proofs.Calendar
import MarkupNaming.Settings.Release

/-!
# The release that applies

Of the releases that have not expired on a day, the first in the list applies among those with the
least last day. It applies until that day is over, and on a later day no release applies that
expires earlier.
-/
namespace MarkupNaming

namespace Release
variable {releases before after : List Release} {r s : Release} {today today' day d : Date}

theorem isUnexpired_iff :
    r.isUnexpired today = true ↔ ∃ day, r.expiryDate? = some day ∧ today ≤ day := by
  simp [isUnexpired, Option.any_eq_true]

theorem orderDate_of_expiryDate? (h : r.expiryDate? = some day) : r.orderDate = day := by
  rw [orderDate, h]
  rfl

theorem noLater_iff : r.noLater s = true ↔ r.orderDate ≤ s.orderDate := decide_eq_true_iff

/-- Whether a release is the first among those of the least last day from `today` on, between the
releases in front of it and those behind it. -/
structure ExpiresFirst (today : Date) (before : List Release) (r : Release)
    (after : List Release) (day : Date) : Prop where
  expiry : r.expiryDate? = some day
  unexpired : today ≤ day
  lt_before : ∀ s ∈ before, ∀ d, s.expiryDate? = some d → today ≤ d → day < d
  le_after : ∀ s ∈ after, ∀ d, s.expiryDate? = some d → today ≤ d → day ≤ d

namespace ExpiresFirst

theorem le_of_mem (h : ExpiresFirst today before r after day) (hs : s ∈ before ++ r :: after)
    (hd : s.expiryDate? = some d) (htoday : today ≤ d) : day ≤ d := by
  rcases List.mem_append.1 hs with hs | hs
  · exact Date.le_of_lt (h.lt_before s hs d hd htoday)
  · rcases List.mem_cons.1 hs with rfl | hs
    · obtain rfl := Option.some.inj (h.expiry.symm.trans hd)
      exact Nat.le_refl _
    · exact h.le_after s hs d hd htoday

/-- The release that expires first does so on each further day up to its last one. -/
theorem of_le (h : ExpiresFirst today before r after day) (hle : today ≤ today')
    (hday : today' ≤ day) : ExpiresFirst today' before r after day :=
  ⟨h.expiry, hday, fun s hs d hd htoday => h.lt_before s hs d hd (Date.le_trans hle htoday),
    fun s hs d hd htoday => h.le_after s hs d hd (Date.le_trans hle htoday)⟩

theorem cons (h : ExpiresFirst today before r after day)
    (hs : ∀ d, s.expiryDate? = some d → today ≤ d → day < d) :
    ExpiresFirst today (s :: before) r after day :=
  ⟨h.expiry, h.unexpired, List.forall_mem_cons.2 ⟨hs, h.lt_before⟩, h.le_after⟩

/-- There is at most one place in a list for the release that expires first. -/
theorem unique {before' after' : List Release} {day' : Date}
    (h : ExpiresFirst today before r after day) (h' : ExpiresFirst today before' s after' day')
    (heq : before ++ r :: after = before' ++ s :: after') : before = before' ∧ r = s := by
  have hle : day' ≤ day := h'.le_of_mem (by rw [← heq]; simp) h.expiry h.unexpired
  have hle' : day ≤ day' := h.le_of_mem (by rw [heq]; simp) h'.expiry h'.unexpired
  rcases List.append_eq_append_iff.1 heq with ⟨gap, rfl, hgap⟩ | ⟨gap, rfl, hgap⟩
  · cases gap with
    | nil => exact ⟨(List.append_nil _).symm, (List.cons.inj hgap).1⟩
    | cons first gap =>
      obtain rfl := (List.cons.inj hgap).1
      exact absurd hle' (Date.not_le.2 (h'.lt_before r (by simp) day h.expiry h.unexpired))
  · cases gap with
    | nil => exact ⟨List.append_nil _, (List.cons.inj hgap).1.symm⟩
    | cons first gap =>
      obtain rfl := (List.cons.inj hgap).1
      exact absurd hle (Date.not_le.2 (h.lt_before s (by simp) day' h'.expiry h'.unexpired))

end ExpiresFirst

theorem active?_cons (r : Release) (releases : List Release) (today : Date) :
    active? (r :: releases) today =
      if r.isUnexpired today then
        match active? releases today with
        | none => some r
        | some s => if r.noLater s then some r else some s
      else active? releases today := by
  rw [active?, List.filter_cons]
  split <;> rfl

theorem active?_eq_none_iff :
    active? releases today = none ↔ ∀ r ∈ releases, r.isUnexpired today = false := by
  induction releases with
  | nil => simp [active?, earliest?]
  | cons first releases ih =>
    rw [active?_cons, List.forall_mem_cons, ← ih]
    cases first.isUnexpired today with
    | false => simp
    | true =>
      cases active? releases today with
      | none => simp
      | some s => by_cases hfirst : first.noLater s = true <;> simp [hfirst]

/-- The release that applies expires first in its place. -/
theorem exists_of_active? (h : active? releases today = some r) :
    ∃ before after day, releases = before ++ r :: after ∧
      ExpiresFirst today before r after day := by
  induction releases generalizing r with
  | nil => cases h
  | cons first releases ih =>
    rw [active?_cons] at h
    by_cases hfirst : first.isUnexpired today = true
    · obtain ⟨day, hday, htoday⟩ := isUnexpired_iff.1 hfirst
      rw [if_pos hfirst] at h
      cases hactive : active? releases today with
      | none =>
        rw [hactive] at h
        obtain rfl := Option.some.inj h
        refine ⟨[], releases, day, rfl, hday, htoday, by simp, fun s hs d hd hle => ?_⟩
        have hexpired := active?_eq_none_iff.1 hactive s hs
        cases hexpired.symm.trans (isUnexpired_iff.2 ⟨d, hd, hle⟩)
      | some s =>
        obtain ⟨before, after, day', rfl, hs⟩ := ih hactive
        simp only [hactive] at h
        -- The first one of the list applies unless it expires later than the one of the rest.
        by_cases hle : first.noLater s = true
        · rw [if_pos hle] at h
          obtain rfl := Option.some.inj h
          rw [noLater_iff, orderDate_of_expiryDate? hday, orderDate_of_expiryDate? hs.expiry] at hle
          exact ⟨[], _, day, rfl, hday, htoday, by simp,
            fun a ha d hd hle' => Date.le_trans hle (hs.le_of_mem ha hd hle')⟩
        · rw [if_neg hle] at h
          obtain rfl := Option.some.inj h
          rw [noLater_iff, orderDate_of_expiryDate? hday, orderDate_of_expiryDate? hs.expiry,
            Date.not_le] at hle
          refine ⟨first :: before, after, day', rfl, hs.cons fun d hd _ => ?_⟩
          exact Option.some.inj (hday.symm.trans hd) ▸ hle
    · rw [if_neg hfirst] at h
      obtain ⟨before, after, day, rfl, hr⟩ := ih h
      refine ⟨first :: before, after, day, rfl, hr.cons fun d hd htoday => ?_⟩
      exact absurd (isUnexpired_iff.2 ⟨d, hd, htoday⟩) hfirst

theorem active?_eq_some_iff : active? releases today = some r ↔
    ∃ before after day, releases = before ++ r :: after ∧
      ExpiresFirst today before r after day := by
  refine ⟨exists_of_active?, ?_⟩
  rintro ⟨before, after, day, rfl, hr⟩
  cases hactive : active? (before ++ r :: after) today with
  | none =>
    have hexpired := active?_eq_none_iff.1 hactive r (by simp)
    cases hexpired.symm.trans (isUnexpired_iff.2 ⟨day, hr.expiry, hr.unexpired⟩)
  | some s =>
    obtain ⟨before', after', day', heq, hs⟩ := exists_of_active? hactive
    rw [(hr.unique hs heq).2]

theorem exists_active?_iff : (∃ r, active? releases today = some r) ↔
    ∃ r ∈ releases, ∃ day, r.expiryDate? = some day ∧ today ≤ day := by
  rw [← Option.ne_none_iff_exists', Ne, active?_eq_none_iff]
  simp [← isUnexpired_iff]

/-! ## From day to day -/

/-- The release that applies on a day applies up to its last day. -/
theorem active?_of_le (hle : today ≤ today') (h : active? releases today = some r)
    (hr : r.expiryDate? = some day) (hday : today' ≤ day) : active? releases today' = some r := by
  obtain ⟨before, after, day', heq, hfirst⟩ := exists_of_active? h
  obtain rfl := Option.some.inj (hfirst.expiry.symm.trans hr)
  exact active?_eq_some_iff.2 ⟨before, after, day', heq, hfirst.of_le hle hday⟩

/-- What applies on a later day does not expire before what applies on an earlier one. -/
theorem exists_active?_of_le (hle : today ≤ today') (h : active? releases today' = some s)
    (hs : s.expiryDate? = some d) :
    ∃ r day, active? releases today = some r ∧ r.expiryDate? = some day ∧ day ≤ d := by
  obtain ⟨before', after', d', heq', hlast⟩ := exists_of_active? h
  obtain rfl := Option.some.inj (hlast.expiry.symm.trans hs)
  have hmem : s ∈ releases := by simp [heq']
  have htoday := Date.le_trans hle hlast.unexpired
  obtain ⟨r, hr⟩ := exists_active?_iff.2 ⟨s, hmem, d', hs, htoday⟩
  obtain ⟨before, after, day, rfl, hfirst⟩ := exists_of_active? hr
  exact ⟨r, day, hr, hfirst.expiry, hfirst.le_of_mem hmem hs htoday⟩

/-! ## Expired releases -/

/-- The expired releases are those, in their order, that have a last day and do not apply any
more. -/
theorem expired_eq_filter (releases : List Release) (today : Date) :
    expired releases today =
      releases.filter fun r => r.expiryDate?.isSome && !r.isUnexpired today := by
  refine List.filter_congr fun r _ => ?_
  rw [isExpired, isUnexpired]
  cases r.expiryDate? with
  | none => rfl
  | some day => simp [← Date.not_le]

theorem mem_expired_iff : r ∈ expired releases today ↔
    r ∈ releases ∧ r.expiryDate? ≠ none ∧ ¬ r.isUnexpired today = true := by
  rw [expired_eq_filter, List.mem_filter, Bool.and_eq_true, Option.isSome_iff_ne_none,
    Bool.not_eq_true', Bool.not_eq_true]

/-- Each release is without a last day, expired or unexpired, and only one of these. -/
theorem classes (hr : r ∈ releases) :
    (r.expiryDate? = none ∧ r ∉ expired releases today ∧ ¬ r.isUnexpired today = true) ∨
    (r.expiryDate? ≠ none ∧ r ∈ expired releases today ∧ ¬ r.isUnexpired today = true) ∨
    (r.expiryDate? ≠ none ∧ r ∉ expired releases today ∧ r.isUnexpired today = true) := by
  rw [mem_expired_iff]
  cases hday : r.expiryDate? with
  | none => simp [isUnexpired, hday]
  | some day => by_cases hle : r.isUnexpired today = true <;> simp [hr, hle]

end Release
end MarkupNaming
