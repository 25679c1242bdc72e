import MarkupNaming.Proofs.Files.Writing
import MarkupNaming.Proofs.Text.Runs

/-!
# Directories

The directories on the way to a file, and making those that are not there. A path to something that
is there leads through directories, so nothing has to be made for it. Directories are made from the
root on, and making them ends at the first one that cannot be made.
-/
namespace MarkupNaming
open Text

theorem Text.isPrefix_join (separator : Text) (parts more : List Text) :
    join separator parts <+: join separator (parts ++ more) := by
  induction parts with
  | nil => exact List.nil_prefix
  | cons t parts ih =>
    cases parts with
    | nil =>
      cases more with
      | nil => exact List.prefix_rfl
      | cons u more =>
        rw [List.singleton_append, join_singleton, join_cons_cons]
        exact List.prefix_append t _
    | cons u parts =>
      rw [join_cons_cons, List.cons_append, List.cons_append, join_cons_cons]
      rw [List.cons_append] at ih
      exact (List.prefix_append_right_inj t).2 ((List.prefix_append_right_inj separator).2 ih)

namespace Path
variable {root : Root} {front rest : List Text}

theorem components_append_front (directory : Path) (root : Root) (front rest : List Text) :
    (directory ++ (⟨root, front ++ rest⟩ : Path)).components =
      (directory ++ (⟨root, front⟩ : Path)).components ++ rest := by
  change (append _ _).components = (append _ _).components ++ rest
  cases root <;> simp [append, isAbsolute]

/-- The names on the way to a directory above come first. -/
theorem exists_names_of_append {directory : Path} {names : List FileName}
    (h : (directory ++ (⟨root, front ++ rest⟩ : Path)).names = .ok names) :
    ∃ above behind, (directory ++ (⟨root, front⟩ : Path)).names = .ok above ∧
      rest.mapM (Utf8.encode .escape) = .ok behind ∧ names = above ++ behind := by
  rw [Path.names, components_append_front, List.mapM_append] at h
  rw [Path.names]
  cases hfront : (directory ++ (⟨root, front⟩ : Path)).components.mapM (Utf8.encode .escape) with
  | error fault =>
    rw [hfront] at h
    cases h
  | ok above =>
    cases hrest : rest.mapM (Utf8.encode .escape) with
    | error fault =>
      rw [hfront, hrest] at h
      cases h
    | ok behind =>
      rw [hfront, hrest] at h
      exact ⟨above, behind, rfl, rfl, (Except.ok.inj h).symm⟩

/-- What a path writes starts with what the path to a directory above writes. -/
theorem isPrefix_text (root : Root) (front : List Text) (h : rest ≠ []) :
    (⟨root, front⟩ : Path).text = "." ∨
      (⟨root, front⟩ : Path).text <+: (⟨root, front ++ rest⟩ : Path).text := by
  unfold text
  dsimp only
  rw [if_neg (c := root = .relative ∧ front ++ rest = []) (by simp [h])]
  split
  · exact .inl rfl
  · exact .inr ((List.prefix_append_right_inj _).2 (isPrefix_join _ _ _))

end Path

namespace FileTree
variable {t left made : FileTree} {directory p : Path} {place start : Place} {root : Root}
  {front rest : List Text} {names : List FileName}

/-! ## Following paths -/

theorem walk_append (start : Place) (front rest : List FileName) :
    t.walk start (front ++ rest) = (t.walk start front).bind (t.walk · rest) := by
  induction front generalizing start with
  | nil => rfl
  | cons c front ih =>
    rw [List.cons_append, walk, walk]
    cases t.entryAt? start with
    | none => rfl
    | some entry =>
      cases entry with
      | file content => rfl
      | directory =>
        dsimp only
        split
        · rfl
        · exact ih _

/-- Each step of a path starts in a directory. -/
theorem entryAt?_of_walk (h : t.walk start names = .ok place) (hnames : names ≠ []) :
    t.entryAt? start = some .directory := by
  cases names with
  | nil => exact absurd rfl hnames
  | cons name names =>
    rw [walk] at h
    split at h
    · cases h
    · cases h
    · assumption

/-- A path leads through the directories above its end. -/
theorem exists_place_of_append
    (h : t.place directory ⟨root, front ++ rest⟩ = .ok place) (hrest : rest ≠ []) :
    ∃ above, t.place directory ⟨root, front⟩ = .ok above ∧
      t.entryAt? above = some .directory := by
  obtain ⟨written, names, hwritten, hnul, hlong, hnames, hwalk⟩ := place_eq_ok_iff.1 h
  obtain ⟨above, behind, habove, hbehind, rfl⟩ := Path.exists_names_of_append hnames
  have hne : behind ≠ [] := by
    rintro rfl
    exact hrest (List.forall₂_nil_right_iff.1 (mapM_eq_ok_iff.1 hbehind))
  rw [walk_append] at hwalk
  cases hfront : t.walk [] above with
  | error reason =>
    rw [hfront] at hwalk
    cases hwalk
  | ok reached =>
    rw [hfront] at hwalk
    refine ⟨reached, place_eq_ok_iff.2 ?_, entryAt?_of_walk hwalk hne⟩
    rcases Path.isPrefix_text root front hrest with hdot | ⟨more, hmore⟩
    · exact ⟨_, above, by rw [hdot]; rfl, by rw [hdot]; decide, by decide, habove, hfront⟩
    · rw [← hmore] at hwritten hnul
      obtain ⟨short, long, hshort, -, rfl⟩ := Utf8.exists_of_encode_append hwritten
      rw [List.length_append] at hlong
      exact ⟨short, above, hshort, fun hmem => hnul (List.mem_append_left _ hmem), by omega,
        habove, hfront⟩

theorem isFile_eq_true_iff : t.isFile directory p = .ok true ↔
    ∃ place content, t.place directory p = .ok place ∧
      t.entryAt? place = some (.file content) := by
  rw [isFile, find?]
  cases hplace : t.place directory p with
  | error reason => cases reason <;> simp
  | ok place =>
    dsimp only
    split
    · next content hentry => simp [hentry]
    · next hother =>
      simp only [Except.ok.injEq, false_iff, reduceCtorEq]
      simpa using hother

/-- A file can be written where one is. -/
theorem writable_of_isFile (h : t.isFile directory p = .ok true) :
    ∃ place, t.writable directory p = .ok place := by
  obtain ⟨place, old, hplace, hentry⟩ := isFile_eq_true_iff.1 h
  refine ⟨place, writable_eq_ok_iff.2 ⟨hplace, ?_⟩⟩
  rw [hentry]
  nofun

/-- A text that has bytes can be written where a file is. -/
theorem exists_write_of_isFile (h : t.isFile directory p = .ok true) {content : Text}
    (hcontent : Utf8.IsEncodable content) : ∃ saved, t.write directory p content = .ok saved := by
  obtain ⟨place, hwritable⟩ := writable_of_isFile h
  obtain ⟨bytes, hbytes⟩ := Utf8.exists_encode_strict_iff.2 hcontent
  exact ⟨_, write_eq_ok_iff.2 ⟨place, bytes, hwritable, hbytes, rfl⟩⟩

/-- A file is where one was written. -/
theorem isFile_of_write {saved : FileTree} {content : Text}
    (h : t.write directory p content = .ok saved) : saved.isFile directory p = .ok true := by
  obtain ⟨bytes, -, hread⟩ := read_of_write h
  rw [read] at hread
  refine isFile_eq_true_iff.2 ?_
  split at hread
  · cases hread
  · next place hplace =>
    split at hread
    · next content' hentry => exact ⟨place, content', hplace, hentry⟩
    · cases hread
    · cases hread

/-- A file in the place of another one changes the way to no place. -/
theorem walk_set_file {target : Place} {old : List UInt8}
    (htarget : t.entryAt? target = some (.file old)) (bytes : List UInt8) (start : Place)
    (names : List FileName) :
    (t.set target (.file bytes)).walk start names = t.walk start names := by
  have hne : target ≠ [] := by
    refine ne_nil_of_entryAt? (t := t) ?_
    rw [htarget]
    nofun
  induction names generalizing start with
  | nil => rfl
  | cons name names ih =>
    rw [walk, walk, entryAt?_set t hne]
    by_cases hstart : start = target
    · rw [if_pos hstart, hstart, htarget]
    · rw [if_neg hstart]
      simp only [ih]

/-- What stands at any path is a file as before when one file is written over. -/
theorem isFile_of_write_over {saved : FileTree} {content : Text} {q : Path}
    (hfile : t.isFile directory p = .ok true) (h : t.write directory p content = .ok saved) :
    saved.isFile directory q = t.isFile directory q := by
  obtain ⟨target, old, hplace, htarget⟩ := isFile_eq_true_iff.1 hfile
  obtain ⟨target', bytes, hwritable, -, rfl⟩ := write_eq_ok_iff.1 h
  obtain ⟨hplace', hnot⟩ := writable_eq_ok_iff.1 hwritable
  obtain rfl : target = target' := Except.ok.inj (hplace.symm.trans hplace')
  have hsame : (t.set target (.file bytes)).place directory q = t.place directory q := by
    unfold FileTree.place
    simp only [walk_set_file htarget]
  rw [isFile, isFile, find?, find?, hsame]
  cases t.place directory q with
  | error reason => rfl
  | ok place =>
    dsimp only
    rw [entryAt?_set t (ne_nil_of_entryAt? hnot)]
    by_cases hq : place = target
    · rw [if_pos hq, hq, htarget]
    · rw [if_neg hq]

/-! ## Making directories -/

/-- Nothing has to be made above a file. -/
theorem makeDirectory_of_isFile
    (h : t.isFile directory ⟨root, front ++ rest⟩ = .ok true) (hrest : rest ≠ []) :
    t.makeDirectory directory ⟨root, front⟩ = .ok t := by
  obtain ⟨place, content, hplace, -⟩ := isFile_eq_true_iff.1 h
  obtain ⟨above, habove, hdirectory⟩ := exists_place_of_append hplace hrest
  rw [makeDirectory, habove]
  dsimp only
  rw [hdirectory]

theorem makeDirectories_of_isFile (h : t.isFile directory p = .ok true) :
    t.makeDirectories directory p.parent = .ok t := by
  rcases List.eq_nil_or_concat p.components with hnil | ⟨front, last, hcomponents⟩
  · rw [makeDirectories, Path.parent, hnil]
    rfl
  · obtain ⟨root, components⟩ := p
    obtain rfl : components = front ++ [last] := by simpa using hcomponents
    have hmade : t.makeDirectory directory ⟨root, front⟩ = .ok t :=
      makeDirectory_of_isFile h (List.cons_ne_nil _ _)
    rw [makeDirectories, Path.parent, List.dropLast_concat]
    cases hback : front.reverse with
    | nil => rfl
    | cons c back =>
      rw [makeDirectoriesBack, ← hback, List.reverse_reverse, hmade]

/-- Making directories ends too early at one that cannot be made. -/
theorem exists_of_makeDirectoriesBack {back : List Text} {unfinished : Unfinished}
    (h : t.makeDirectoriesBack directory root back = .error unfinished) :
    ∃ above fault, above <:+ back ∧
      unfinished.left.makeDirectory directory ⟨root, above.reverse⟩ = .error fault := by
  induction back generalizing unfinished with
  | nil => cases h
  | cons c back ih =>
    rw [makeDirectoriesBack] at h
    split at h
    · cases h
    · next hmissing =>
      split at h
      · next made hmade =>
        cases hlast : made.makeDirectory directory ⟨root, (c :: back).reverse⟩ with
        | ok _ =>
          rw [hlast] at h
          cases h
        | error fault =>
          rw [hlast] at h
          obtain rfl := Except.error.inj h
          exact ⟨c :: back, _, List.suffix_rfl, hlast⟩
      · next unfinished' hunfinished =>
        obtain rfl := Except.error.inj h
        obtain ⟨above, fault, hsuffix, hfault⟩ := ih hunfinished
        exact ⟨above, fault, hsuffix.trans (List.suffix_cons c back), hfault⟩
    · next fault hfault =>
      obtain rfl := Except.error.inj h
      exact ⟨c :: back, _, List.suffix_rfl, hfault⟩

/-- A file has not become one when the directories above it could not be made. -/
theorem isFile_of_makeDirectories {unfinished : Unfinished}
    (h : t.makeDirectories directory p.parent = .error unfinished) :
    unfinished.left.isFile directory p ≠ .ok true := by
  intro hfile
  obtain ⟨above, fault, ⟨between, hbetween⟩, hfault⟩ := exists_of_makeDirectoriesBack h
  have hfront : p.components.dropLast = above.reverse ++ between.reverse := by
    rw [← List.reverse_append, hbetween, Path.parent, List.reverse_reverse]
  rcases List.eq_nil_or_concat p.components with hnil | ⟨front, last, hcomponents⟩
  · rw [makeDirectories, Path.parent, hnil] at h
    cases h
  · rw [hcomponents, List.concat_eq_append, List.dropLast_concat] at hfront
    have hp : p = ⟨p.root, above.reverse ++ (between.reverse ++ [last])⟩ := by
      rw [← List.append_assoc, ← hfront, ← List.concat_eq_append, ← hcomponents]
    have hmade := makeDirectory_of_isFile (hp ▸ hfile) (by simp)
    cases hfault.symm.trans hmade

end FileTree
end MarkupNaming
