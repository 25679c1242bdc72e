import MarkupNaming.Proofs.CommandLine.Documents
import MarkupNaming.Proofs.CommandLine.Places
import MarkupNaming.Proofs.Settings.RoundTrip

/-!
# Failing commands

What a run leaves that does not succeed. Nothing changes before the last part of a command, so what
fails earlier leaves the files as they are. The change itself has two steps, and so has the end of a
run. Directories that have been made for a settings file stay if the file, or a directory behind
them, has a name that is too long. A file that has been emptied for a document stays empty if the
document has no bytes. And what a command has done stays if that cannot be printed.
-/
namespace MarkupNaming

/-- Trees in which different things stand at some place. -/
def FileTree.Differs (t t' : FileTree) : Prop := ∃ q, t'.entryAt? q ≠ t.entryAt? q

theorem FileTree.Differs.ne {t t' : FileTree} (h : t.Differs t') : t' ≠ t := by
  obtain ⟨q, hq⟩ := h
  rintro rfl
  exact hq rfl

theorem FileTree.differs_set_iff {t : FileTree} {target : Place} {entry : Entry}
    (hne : target ≠ []) : t.Differs (t.set target entry) ↔ t.entryAt? target ≠ some entry := by
  refine ⟨fun ⟨q, hq⟩ hsame => ?_, fun hother => ⟨target, ?_⟩⟩
  · rw [entryAt?_set _ hne] at hq
    split at hq
    · next htarget => exact hq (htarget ▸ hsame.symm)
    · exact hq rfl
  · rw [entryAt?_set _ hne, if_pos rfl]
    exact hother.symm

namespace CommandLine
open Text World CommandLine.Action
variable {w : World} {args : List Text} {command : Command}

/-- Commands that only read. -/
def World.onlyReads : Command → Bool
  | .generate _ | .ancestors .. | .options .. | .listRules _ | .listReleases _
  | .currentRelease _ => true
  | .apply _ inPlace output => !inPlace && output.isNone
  | .addRule .. | .removeRule .. | .addRelease .. | .removeRelease .. => false

/-- A command that only reads changes no file, whether it succeeds or not. -/
theorem keeps_perform (h : onlyReads command = true) :
    Keeps (w.perform command) w.files fun _ => True := by
  cases command with
  | generate t =>
    refine Keeps.bind_pure (P := fun _ => True) ?_ _
    exact keeps_outcome.andThen fun _ _ => keeps_pure trivial
  | apply t inPlace output =>
    refine Keeps.bind_pure (P := fun _ => True) ?_ _
    refine (keeps_demand _ _).andThen fun _ _ => keeps_outcome.andThen fun outcome _ => ?_
    refine keeps_warn.andThen fun _ _ => ?_
    obtain ⟨rfl, rfl⟩ : inPlace = false ∧ output = none := by simpa [onlyReads] using h
    exact keeps_pure trivial
  | ancestors file c =>
    refine Keeps.bind_pure (P := fun _ => True) ?_ _
    refine keeps_document.andThen fun document _ => keeps_offsetIn.andThen fun offset _ => ?_
    split
    · exact keeps_throw _
    · exact keeps_pure trivial
  | options file c place =>
    refine Keeps.bind_pure (P := fun _ => True) ?_ _
    cases file with
    | none => exact (keeps_require _).imp fun _ _ => trivial
    | some file =>
      refine keeps_settings.andThen fun settings _ => keeps_document.andThen fun document _ => ?_
      refine keeps_offsetIn.andThen fun offset _ => ?_
      split
      · exact keeps_throw _
      · refine (keeps_require _).andThen fun _ _ => (keeps_require _).andThen fun _ _ => ?_
        exact (keeps_require _).imp fun _ _ => trivial
  | listRules place =>
    refine Keeps.bind_pure (P := fun _ => True) ?_ _
    refine keeps_settings.andThen fun settings _ => (keeps_expect _).andThen fun rules _ => ?_
    exact (keeps_require _).imp fun _ _ => trivial
  | listReleases place =>
    refine Keeps.bind_pure (P := fun _ => True) ?_ _
    refine keeps_settings.andThen fun settings _ => (keeps_require _).andThen fun listing _ => ?_
    exact keeps_pure trivial
  | currentRelease place =>
    refine Keeps.bind_pure (P := fun _ => True) ?_ _
    exact keeps_settings.andThen fun settings _ => keeps_pure trivial
  | _ => cases h

/-- A world whose files are a tree, with a directory that a plain path leads to. -/
structure World.IsSound (w : World) : Prop where
  tree : w.files.IsTree
  directory : w.directory.IsPlain

/-! ## What is left -/

/-- A run that edits settings has left directories that it made for a settings file, in front of a
name on the way there that is too long. -/
def LeavesDirectories (w : World) (args : List Text) : Prop :=
  ∃ verbosity showsTracebacks command place p,
    Request.read ⟨w.files, w.directory⟩ args = some (.run verbosity showsTracebacks command) ∧
    editedPlace? command = some place ∧ w.settingsFile place = .ok p ∧
    FileTree.Strands w.files (run w args).files (Path.namesOf p.components)

/-- A run that applies a name has left a file empty, or made an empty one, for a document that has
no bytes. -/
def LeavesEmptied (w : World) (args : List Text) : Prop :=
  ∃ verbosity showsTracebacks t inPlace output outcome p target,
    Request.read ⟨w.files, w.directory⟩ args =
      some (.run verbosity showsTracebacks (.apply t inPlace output)) ∧
    ((w.outcome t true).run.run (w.start verbosity showsTracebacks)).1 = .ok outcome ∧
    ¬Utf8.IsEncodable outcome.updatedText ∧
    (if inPlace then some t.file else output) = some p ∧
    w.files.writable w.directory p = .ok target ∧ w.files.entryAt? target ≠ some (.file []) ∧
    (run w args).files = w.files.set target (.file [])

/-- A run has performed a command and changed files, and cannot print one of the texts of it. -/
def LeavesUnprinted (w : World) (args : List Text) : Prop :=
  ∃ verbosity showsTracebacks command printouts,
    Request.read ⟨w.files, w.directory⟩ args = some (.run verbosity showsTracebacks command) ∧
    ((w.perform command).run.run (w.start verbosity showsTracebacks)).1 = .ok printouts ∧
    (∃ p ∈ printouts, ∀ bytes, Utf8.encode w.stdout p.text ≠ .ok bytes) ∧
    w.files.Differs (run w args).files

theorem differs_of_leavesDirectories (h : LeavesDirectories w args) :
    w.files.Differs (run w args).files := by
  obtain ⟨_, _, _, _, _, -, -, -, made, name, rest, -, -, hnone, hgrown⟩ := h
  refine ⟨made, ?_⟩
  rw [hgrown made, if_pos ⟨hnone, List.prefix_rfl⟩, hnone]
  nofun

theorem differs_of_leavesEmptied (h : LeavesEmptied w args) :
    w.files.Differs (run w args).files := by
  obtain ⟨_, _, _, _, _, _, _, target, -, -, -, -, hwritable, hfull, hleft⟩ := h
  rw [hleft]
  exact (FileTree.differs_set_iff
    (FileTree.ne_nil_of_entryAt? (FileTree.writable_eq_ok_iff.1 hwritable).2)).2 hfull

/-- A command that edits settings and fails. -/
theorem World.Edits.strands {α : Type} {place : SettingsPlace} {failure : Failure}
    {after : FileTree} (hw : w.IsSound) (hplain : place.IsPlain)
    (h : Edits w command place (.error failure : Except Failure α) after) :
    after = w.files ∨ ∃ p, w.settingsFile place = .ok p ∧
      FileTree.Strands w.files after (Path.namesOf p.components) := by
  cases h with
  | refused failure => exact .inl rfl
  | @unfinished p s s' _ failure hp reached stored edit save =>
    have hplainFile := isPlain_of_settingsFile hw.directory hplain hp
    exact (Settings.strands_of_save hw.tree hplainFile s'.isEncodable_written reached
      save).imp_right fun hstrands => ⟨p, hp, hstrands⟩

/-- What `apply` prints is made of its text, so the command fails where that text is missing. -/
theorem apply_eq_error {t : Target} {inPlace : Bool} {output : Option Path} {failure : Failure}
    {s : Session}
    (h : ((w.perform (.apply t inPlace output)).run.run s).1 = .error failure) :
    ((w.apply t inPlace output).run.run s).1 = .error failure := by
  rw [perform, run_bind_pure (w.apply t inPlace output) fun t => [Printout.plain t]] at h
  cases hresult : ((w.apply t inPlace output).run.run s).1 with
  | ok printed =>
    rw [hresult] at h
    cases h
  | error early =>
    rw [hresult] at h
    obtain rfl := Except.error.inj h
    rfl

/-- A name that cannot be applied leaves the files as they are, or a file empty for its document. -/
theorem files_of_apply {verbosity : Nat} {showsTracebacks : Bool} {t : Target} {inPlace : Bool}
    {output : Option Path} {failure : Failure}
    (h : Request.read ⟨w.files, w.directory⟩ args =
      some (.run verbosity showsTracebacks (.apply t inPlace output)))
    (hperform : ((w.perform (.apply t inPlace output)).run.run
      (w.start verbosity showsTracebacks)).1 = .error failure)
    (hchanged : w.files.Differs (run w args).files) : LeavesEmptied w args := by
  obtain ⟨hfiles, -⟩ := run_of_apply h
  have hsame := hchanged.ne
  have hfailure : ((w.apply t inPlace output).run.run (w.start verbosity showsTracebacks)).1 =
      .error failure := apply_eq_error hperform
  by_cases hone : inPlace = false ∨ output = none
  swap
  · have hkept : Keeps (w.apply t inPlace output) w.files fun _ => False :=
      (keeps_demand _ _).andThen fun _ h => absurd h hone
    exact absurd (hfiles.trans (hkept _ rfl).1) hsame
  have hkept : Keeps (w.outcome t true) w.files fun _ => True :=
    keeps_outcome.imp fun _ _ => trivial
  have hstart := (hkept (w.start verbosity showsTracebacks) rfl).1
  rcases houtcome : (w.outcome t true).run.run (w.start verbosity showsTracebacks) with
    ⟨early | outcome, s₁⟩
  · rw [houtcome] at hstart
    rw [apply_eq hone, run_bind, houtcome] at hfiles
    exact absurd (hfiles.trans hstart) hsame
  rw [houtcome] at hstart
  have hdelivers := delivers_of_outcome hone rfl houtcome
  rw [hfailure, ← hfiles] at hdelivers
  generalize hgiven : (if inPlace = true then some t.file else output) = given at hdelivers
  generalize hafter : (run w args).files = after at hdelivers
  cases hdelivers with
  | @refused p u _ write =>
    rcases FileTree.write_eq_error_iff.1 write with
      ⟨fault, -, rfl⟩ | ⟨target, fault, hwritable, hcontent, rfl⟩
    · exact absurd hafter hsame
    · have hbytes : ¬Utf8.IsEncodable outcome.updatedText := fun hbytes => by
        obtain ⟨bytes, hbytes⟩ := Utf8.exists_encode_strict_iff.2 hbytes
        cases hbytes.symm.trans hcontent
      have hfull : w.files.entryAt? target ≠ some (.file []) := by
        rw [hafter] at hchanged
        exact (FileTree.differs_set_iff
          (FileTree.ne_nil_of_entryAt? (FileTree.writable_eq_ok_iff.1 hwritable).2)).1 hchanged
      exact ⟨verbosity, showsTracebacks, t, inPlace, output, outcome, p, target, h,
        congrArg Prod.fst houtcome, hbytes, hgiven, hwritable, hfull, hafter⟩

/-- A command that only reads changes no file. A run that fails changes something in three cases
only, and in each of them it does: it edits settings and leaves directories in front of a name that
is too long, it applies a name and leaves a file empty for a document without bytes, or it has done
what it is asked for and cannot print that. -/
theorem files_of_run (hw : w.IsSound) (args : List Text) :
    (∀ verbosity showsTracebacks command,
      Request.read ⟨w.files, w.directory⟩ args = some (.run verbosity showsTracebacks command) →
        onlyReads command = true → (run w args).files = w.files) ∧
    ((run w args).exitCode ≠ 0 → (w.files.Differs (run w args).files ↔
      LeavesDirectories w args ∨ LeavesEmptied w args ∨ LeavesUnprinted w args)) := by
  refine ⟨fun verbosity showsTracebacks command hread honly => ?_, fun hexit =>
    ⟨fun hchanged => ?_, ?_⟩⟩
  · rw [(run_of_read hread).1]
    exact (keeps_perform honly (w.start verbosity showsTracebacks) rfl).1
  · have hsame := hchanged.ne
    by_cases hcommand : ∃ verbosity showsTracebacks command,
        Request.read ⟨w.files, w.directory⟩ args = some (.run verbosity showsTracebacks command)
    swap
    · exact absurd (files_of_no_command hcommand) hsame
    obtain ⟨verbosity, showsTracebacks, command, hread⟩ := hcommand
    obtain ⟨hfiles, hsuccess⟩ := run_of_read hread
    cases hresult : ((w.perform command).run.run (w.start verbosity showsTracebacks)).1 with
    | ok printouts =>
      refine .inr (.inr ⟨verbosity, showsTracebacks, command, printouts, hread, hresult, ?_,
        hchanged⟩)
      by_contra hprinted
      push Not at hprinted
      exact hexit (hsuccess.2 ⟨printouts, hresult, hprinted⟩)
    | error failure =>
      cases hplace : editedPlace? command with
      | some place =>
        have hends := ends_perform hplace (w.start verbosity showsTracebacks) rfl
        rw [hresult, ← hfiles] at hends
        have hplain := editsPlainly_of_request hw.directory hread place hplace
        obtain hkept | ⟨p, hp, hstrands⟩ := hends.strands hw hplain
        · exact absurd hkept hsame
        · exact .inl ⟨verbosity, showsTracebacks, command, place, p, hread, hplace, hp, hstrands⟩
      | none =>
        cases command with
        | apply t inPlace output => exact .inr (.inl (files_of_apply hread hresult hchanged))
        | addRule => cases hplace
        | removeRule => cases hplace
        | addRelease => cases hplace
        | removeRelease => cases hplace
        | _ =>
          exact absurd (hfiles.trans
            (keeps_perform rfl (w.start verbosity showsTracebacks) rfl).1) hsame
  · rintro (h | h | ⟨_, _, _, _, -, -, -, h⟩)
    · exact differs_of_leavesDirectories h
    · exact differs_of_leavesEmptied h
    · exact h

/-- A directory with one page. -/
def pageDirectory : World where
  files := ⟨[(["w"], .directory), (["w", "p.html"], .file (Utf8.ofString "<p>"))]⟩
  surroundings := { directory := .ofText "/w" }
  today := ⟨2024, 5, 1⟩
  now := 0
  room := machineRoom

/-- The path of a file in a new directory, with a name of 256 letters. -/
def longPath : Text := ("a/" : Text) ++ List.replicate 252 (Code.char 'x') ++ (".yml" : Text)

/-- Arguments that add a release to the settings in that file. -/
def longArguments : List Text :=
  [("releases" : Text), ("add" : Text), ("r" : Text), ("2026-01-01" : Text), ("--config" : Text),
    longPath]

theorem isSound_pageDirectory : pageDirectory.IsSound :=
  ⟨FileTree.isTree_of_entries (by decide), by decide, by decide⟩

theorem files_of_run_longArguments :
    (run pageDirectory longArguments).exitCode ≠ 0 ∧
      LeavesDirectories pageDirectory longArguments := by
  have hexit : (run pageDirectory longArguments).exitCode ≠ 0 := by decide +kernel
  have hread : Request.read ⟨pageDirectory.files, pageDirectory.directory⟩ longArguments =
      some (.run 0 false (.addRelease "r" "2026-01-01"
        { config := some (Path.ofText "/w" ++ Path.ofText longPath) })) := by decide +kernel
  have hdiffers : pageDirectory.files.Differs (run pageDirectory longArguments).files :=
    ⟨["w", "a"], by decide +kernel⟩
  refine ⟨hexit, ?_⟩
  rcases ((files_of_run isSound_pageDirectory longArguments).2 hexit).1 hdiffers with h | h | h
  · exact h
  · obtain ⟨_, _, _, _, _, _, _, _, hother, -⟩ := h
    cases hread.symm.trans hother
  · obtain ⟨_, _, command, _, hother, hperformed, -, -⟩ := h
    obtain ⟨rfl, rfl, rfl⟩ := Request.run.inj (Option.some.inj (hread.symm.trans hother))
    have hfails : ((pageDirectory.perform (.addRelease "r" "2026-01-01"
        { config := some (Path.ofText "/w" ++ Path.ofText longPath) })).run.run
          (pageDirectory.start 0 false)).1.toOption = none := by decide +kernel
    rw [hperformed] at hfails
    cases hfails

/-- Arguments that name the page with a separator that has no bytes. -/
def separatorArguments : List Text :=
  [("apply" : Text), ("p.html" : Text), ("-i" : Text), ("-o" : Text), ("0" : Text),
    ("--option" : Text), ("reversedFileName" : Text), ("--option" : Text), ("releaseName" : Text),
    ("--separator" : Text), [Code.ofNat 0xDCFF]]

/-- The page is empty when its new text turns out to have no bytes. -/
example : (run pageDirectory separatorArguments).files.read pageDirectory.directory
    (.ofText "p.html") = .ok [] := by
  decide +kernel

/-- A rule is stored although its identifier, which has no bytes, is not printed. -/
example :
    let ending := run pageDirectory [("rules" : Text), ("add" : Text), ("r" : Text),
      ("--option" : Text), ("domHash" : Text), ("--id" : Text), [Code.ofNat 0xDCFF]]
    ending.exitCode = 1 ∧ ending.files.isFile pageDirectory.directory (.ofText "cssgps.yml") =
      .ok true := by
  decide +kernel

/-- A command that fails can leave a directory behind, in which another one can then write. -/
theorem not_files_of_failing_run :
    ¬∀ w args, World.IsSound w → (run w args).exitCode ≠ 0 → (run w args).files = w.files := by
  intro h
  exact absurd (h pageDirectory longArguments isSound_pageDirectory (by decide +kernel))
    (by decide +kernel)

end CommandLine
end MarkupNaming
