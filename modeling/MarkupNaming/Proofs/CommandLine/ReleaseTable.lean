import MarkupNaming.CommandLine.Listing
import MarkupNaming.Proofs.Settings.Selection

/-!
# The table of releases

The table marks the row of the release that applies and no other one. So one row is marked as
active as long as a release has not expired, and none behind the last day of all.
-/
namespace MarkupNaming.CommandLine
open Text Release

variable {releases before after : List Release} {r : Release} {today day : Date}

/-- The row of a release in the table. -/
def releaseRow (r : Release) (status : ReleaseStatus) : List Cell :=
  [.styled r.name, .styled r.expiry, .verbatim status.text]

/-- Whether a row of the table is marked as that of the release that applies. -/
def isMarked (row : List Cell) : Bool := row[2]? == some (.verbatim "active")

theorem isMarked_releaseRow (r : Release) (status : ReleaseStatus) :
    isMarked (releaseRow r status) = decide (status = .active) := by
  cases status <;> rfl

/-- The row of a release that does not apply. -/
def plainRow (today : Date) (r : Release) : List Cell := releaseRow r (.of today false r)

theorem isMarked_plainRow (today : Date) (r : Release) : isMarked (plainRow today r) = false := by
  rw [plainRow, isMarked_releaseRow, decide_eq_false_iff_not, ReleaseStatus.of]
  cases r.expiryDate? with
  | none => nofun
  | some day => by_cases hlt : day < today <;> simp [hlt]

theorem countP_plainRow (today : Date) (releases : List Release) :
    (releases.map (plainRow today)).countP isMarked = 0 := by
  simp [List.countP_eq_zero, isMarked_plainRow]

theorem releaseStatuses_none (today : Date) (releases : List Release) :
    releaseStatuses today none releases = releases.map fun r => (r, .of today false r) := by
  induction releases with
  | nil => rfl
  | cons r releases ih => simp [releaseStatuses, ih]

/-- Of several copies of a release the first one is taken for the one that applies. -/
theorem releaseStatuses_append (h : r ∉ before) :
    releaseStatuses today (some r) (before ++ r :: after) =
      before.map (fun s => (s, .of today false s)) ++
        (r, .of today true r) :: after.map fun s => (s, .of today false s) := by
  induction before with
  | nil => simp [releaseStatuses, releaseStatuses_none]
  | cons first before ih =>
    obtain ⟨hne, hmem⟩ := not_or.1 (mt List.mem_cons.2 h)
    simp [releaseStatuses, hne, ih hmem]

theorem rows_eq_map (releases : List Release) (today : Date) :
    (releaseListing releases today).rows =
      (releaseStatuses today (active? releases today) releases).map fun entry =>
        releaseRow entry.1 entry.2 := rfl

theorem rows_releaseListing_of_none (h : active? releases today = none) :
    (releaseListing releases today).rows = releases.map (plainRow today) := by
  rw [rows_eq_map, h, releaseStatuses_none, List.map_map]
  rfl

/-- The row of the release that expires first is marked in its place. -/
theorem rows_releaseListing (h : ExpiresFirst today before r after day) :
    (releaseListing (before ++ r :: after) today).rows =
      before.map (plainRow today) ++ releaseRow r .active :: after.map (plainRow today) := by
  have hactive : active? (before ++ r :: after) today = some r :=
    active?_eq_some_iff.2 ⟨before, after, day, rfl, h⟩
  have hmem : r ∉ before := fun hmem =>
    Nat.lt_irrefl _ (h.lt_before r hmem day h.expiry h.unexpired)
  have hstatus : ReleaseStatus.of today true r = .active := by rw [ReleaseStatus.of, h.expiry]; rfl
  rw [rows_eq_map, hactive, releaseStatuses_append hmem, hstatus, List.map_append, List.map_cons,
    List.map_map, List.map_map]
  rfl

/-- One row is marked if a release applies, and else none. -/
theorem countP_isMarked (releases : List Release) (today : Date) :
    (releaseListing releases today).rows.countP isMarked =
      if (active? releases today).isSome then 1 else 0 := by
  cases hactive : active? releases today with
  | none => rw [rows_releaseListing_of_none hactive, countP_plainRow]; rfl
  | some r =>
    obtain ⟨before, after, day, rfl, hfirst⟩ := active?_eq_some_iff.1 hactive
    rw [rows_releaseListing hfirst, List.countP_append, List.countP_cons, countP_plainRow,
      countP_plainRow, isMarked_releaseRow]
    rfl

/-- What applies on each day. The release that applies is the first one of the least last day that
is not over. It goes on to apply up to that day, and what applies later does not expire earlier.
Each release is without a last day, expired or unexpired, and the table marks one row, that of the
release that applies, as long as one is unexpired. -/
theorem active?_releaseListing (releases : List Release) {today later : Date} (h : today ≤ later) :
    (∀ r, active? releases today = some r ↔ ∃ before after day,
      releases = before ++ r :: after ∧ ExpiresFirst today before r after day) ∧
    ((∃ r, active? releases today = some r) ↔
      ∃ r ∈ releases, ∃ day, r.expiryDate? = some day ∧ today ≤ day) ∧
    (∀ r day, active? releases today = some r → r.expiryDate? = some day → later ≤ day →
      active? releases later = some r) ∧
    (∀ s d, active? releases later = some s → s.expiryDate? = some d →
      ∃ r day, active? releases today = some r ∧ r.expiryDate? = some day ∧ day ≤ d) ∧
    (∀ r ∈ releases,
      (r.expiryDate? = none ∧ r ∉ expired releases today ∧ ¬ r.isUnexpired today = true) ∨
      (r.expiryDate? ≠ none ∧ r ∈ expired releases today ∧ ¬ r.isUnexpired today = true) ∨
      (r.expiryDate? ≠ none ∧ r ∉ expired releases today ∧ r.isUnexpired today = true)) ∧
    (expired releases today =
      releases.filter fun r => r.expiryDate?.isSome && !r.isUnexpired today) ∧
    (releaseListing releases today).rows.countP isMarked =
      (if ∃ r ∈ releases, r.isUnexpired today = true then 1 else 0) ∧
    ∀ before r after day, releases = before ++ r :: after →
      ExpiresFirst today before r after day →
        (releaseListing releases today).rows[before.length]? = some (releaseRow r .active) := by
  refine ⟨fun r => active?_eq_some_iff, exists_active?_iff,
    fun r day hr hday hle => active?_of_le h hr hday hle,
    fun s d hs hd => exists_active?_of_le h hs hd, fun r hr => classes hr,
    expired_eq_filter releases today, ?_, ?_⟩
  · rw [countP_isMarked]
    simp only [Option.isSome_iff_exists, exists_active?_iff, isUnexpired_iff]
  · rintro before r after day rfl hfirst
    rw [rows_releaseListing hfirst, List.getElem?_append_right (by simp)]
    simp

/-- Releases in no order, two of them with one last day and one with none. -/
def mixedReleases : List Release :=
  [⟨"late", "2025-12-01"⟩, ⟨"first", "2025-07-01"⟩, ⟨"second", "20250701"⟩, ⟨"broken", "soon"⟩,
    ⟨"old", "2024-01-01"⟩]

/-- The first of two releases that end on one day applies up to that day. -/
theorem active?_releaseListing_mixed :
    (⟨2025, 6, 1⟩ : Date) ≤ ⟨2025, 7, 1⟩ ∧
      active? mixedReleases ⟨2025, 7, 1⟩ = some ⟨"first", "2025-07-01"⟩ ∧
      expired mixedReleases ⟨2025, 6, 1⟩ = [⟨"old", "2024-01-01"⟩] ∧
      (releaseListing mixedReleases ⟨2025, 6, 1⟩).rows.countP isMarked = 1 := by
  have hle : (⟨2025, 6, 1⟩ : Date) ≤ ⟨2025, 7, 1⟩ := by decide
  obtain ⟨-, -, hstays, -, -, hexpired, hcount, -⟩ := active?_releaseListing mixedReleases hle
  refine ⟨hle, hstays _ ⟨2025, 7, 1⟩ (by decide) (by decide) (by decide), ?_, ?_⟩
  · rw [hexpired]
    decide
  · rw [hcount]
    decide

end MarkupNaming.CommandLine
