import MarkupNaming.Files.Tree
import MarkupNaming.Proofs.Text.Encoding

/-!
# Writing files

A text that was written is read back as its bytes. A path is followed through directories only, and
a file is never written in the place of one, so the way to it is as it was. A text without bytes
leaves an empty file.
-/
namespace MarkupNaming.FileTree
variable {t saved : FileTree} {directory p : Path} {place target : Place} {content : Text}
  {unfinished : Unfinished}

/-- The root is a directory. -/
theorem ne_nil_of_entryAt? (h : t.entryAt? target ≠ some .directory) : target ≠ [] := by
  rintro rfl
  exact h rfl

theorem set_set (t : FileTree) (p : Place) (e e' : Entry) : (t.set p e).set p e' = t.set p e' := by
  simp [set, List.filter_filter]

/-- A path leads to a place if its text and the names on the way have bytes, and not too many. -/
theorem place_eq_ok_iff : t.place directory p = .ok place ↔
    ∃ written names, Utf8.encode .escape p.text = .ok written ∧ .char '\x00' ∉ p.text ∧
      written.length ≤ longestPath ∧ (directory ++ p).names = .ok names ∧
      t.walk [] names = .ok place := by
  unfold FileTree.place
  cases Utf8.encode .escape p.text with
  | error fault => simp
  | ok written =>
    cases (directory ++ p).names with
    | error fault => simp
    | ok names =>
      by_cases hnul : .char '\x00' ∈ p.text
      · simp [hnul]
      · by_cases hlong : longestPath < written.length
        · simp [hnul, hlong, Nat.not_le_of_lt hlong]
        · simp [hnul, hlong, Nat.le_of_not_lt hlong]

/-- An entry that is no directory does not stand on the way to any place. -/
theorem walk_set (htarget : t.entryAt? target ≠ some .directory) (e : Entry) {start : Place}
    {names : List FileName} (h : t.walk start names = .ok place) :
    (t.set target e).walk start names = .ok place := by
  have hne := ne_nil_of_entryAt? htarget
  induction names generalizing start with
  | nil => exact h
  | cons name names ih =>
    rw [walk] at h
    have hstart : t.entryAt? start = some .directory := by
      split at h
      · cases h
      · cases h
      · assumption
    have hother : start ≠ target := by
      rintro rfl
      exact htarget hstart
    rw [hstart] at h
    rw [walk, entryAt?_set t hne, if_neg hother, hstart]
    dsimp only at h ⊢
    split at h
    · cases h
    · next hshort =>
      rw [if_neg hshort]
      exact ih h

/-- A file can be written where a path leads to, unless a directory stands there. -/
theorem writable_eq_ok_iff : t.writable directory p = .ok target ↔
    t.place directory p = .ok target ∧ t.entryAt? target ≠ some .directory := by
  rw [writable]
  cases t.place directory p with
  | error reason => simp
  | ok place =>
    dsimp only
    split
    · next hdirectory =>
      simp only [Except.ok.injEq, reduceCtorEq, false_iff, not_and, not_not]
      rintro rfl
      exact hdirectory
    · next hother =>
      simp only [Except.ok.injEq, iff_self_and]
      rintro rfl
      exact hother

/-- A text that has bytes is written where a file can be. -/
theorem write_eq_ok_iff : t.write directory p content = .ok saved ↔
    ∃ target bytes, t.writable directory p = .ok target ∧
      Utf8.encode .strict content = .ok bytes ∧ saved = t.set target (.file bytes) := by
  rw [write]
  cases t.writable directory p with
  | error fault => simp
  | ok target =>
    cases Utf8.encode .strict content with
    | error fault => simp
    | ok bytes => simp [set_set, eq_comm]

/-- Where a file can be written, it is empty if the text has no bytes. -/
theorem write_eq_error_iff : t.write directory p content = .error unfinished ↔
    (∃ fault, t.writable directory p = .error fault ∧ unfinished = ⟨.path fault, t⟩) ∨
    ∃ target fault, t.writable directory p = .ok target ∧
      Utf8.encode .strict content = .error fault ∧
      unfinished = ⟨.content fault, t.set target (.file [])⟩ := by
  rw [write]
  cases t.writable directory p with
  | error fault => simp [eq_comm]
  | ok target =>
    cases Utf8.encode .strict content with
    | error fault => simp [eq_comm]
    | ok bytes => simp

/-- A file that was written does not stand on the way to where it was written. -/
theorem place_set (h : t.writable directory p = .ok target) (e : Entry) :
    (t.set target e).place directory p = .ok target := by
  obtain ⟨hplace, htarget⟩ := writable_eq_ok_iff.1 h
  obtain ⟨written, names, hwritten, hnul, hlong, hnames, hwalk⟩ := place_eq_ok_iff.1 hplace
  exact place_eq_ok_iff.2 ⟨written, names, hwritten, hnul, hlong, hnames, walk_set htarget e hwalk⟩

/-- What was written to a path is read from it. -/
theorem read_of_write (h : t.write directory p content = .ok saved) :
    ∃ bytes, Utf8.encode .strict content = .ok bytes ∧ saved.read directory p = .ok bytes := by
  obtain ⟨target, bytes, hwritable, hbytes, rfl⟩ := write_eq_ok_iff.1 h
  have hne := ne_nil_of_entryAt? (writable_eq_ok_iff.1 hwritable).2
  refine ⟨bytes, hbytes, ?_⟩
  rw [read, place_set hwritable]
  dsimp only
  rw [entryAt?_set t hne, if_pos rfl]

/-- Writing changes no entry but the one that the path leads to. -/
theorem entryAt?_of_write (h : t.write directory p content = .ok saved) (q : Place) :
    saved.entryAt? q = t.entryAt? q ∨ t.place directory p = .ok q := by
  obtain ⟨target, bytes, hwritable, -, rfl⟩ := write_eq_ok_iff.1 h
  obtain ⟨hplace, htarget⟩ := writable_eq_ok_iff.1 hwritable
  rw [entryAt?_set t (ne_nil_of_entryAt? htarget)]
  by_cases hq : q = target
  · exact .inr (hq ▸ hplace)
  · exact .inl (if_neg hq)

/-- Whether a file can be written depends on a text only in that it must have bytes. -/
theorem exists_write (h : t.write directory p content = .ok saved) {other : Text}
    (hother : Utf8.IsEncodable other) : ∃ saved', t.write directory p other = .ok saved' := by
  obtain ⟨target, -, hwritable, -, -⟩ := write_eq_ok_iff.1 h
  obtain ⟨bytes, hbytes⟩ := Utf8.exists_encode_strict_iff.2 hother
  exact ⟨_, write_eq_ok_iff.2 ⟨target, bytes, hwritable, hbytes, rfl⟩⟩

end MarkupNaming.FileTree
