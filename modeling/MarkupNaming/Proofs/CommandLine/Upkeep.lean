import MarkupNaming.Proofs.CommandLine.Parts
import MarkupNaming.Proofs.Files.Directories
import MarkupNaming.Proofs.Settings.RoundTrip
import MarkupNaming.Proofs.Settings.Soundness

/-!
# Upkeep of settings

Settings that are only ever edited by commands stay sound. A command edits what it finds in the
settings file, and a file that could not be saved has not come into being, so that each command
finds what the one before has saved.
-/
namespace MarkupNaming
open Text Naming

namespace Settings
variable {s s' : Settings} {room : Yaml.Room} {tree : FileTree} {directory p : Path}
  {unfinished : Unfinished}

/-- There is no file where settings could not be saved. -/
theorem isFile_of_save (h : s.save tree directory p = .error unfinished) :
    unfinished.left.isFile directory p ≠ .ok true := by
  rcases save_eq_error_iff.1 h with hmake | ⟨made, -, hwrite⟩
  · exact FileTree.isFile_of_makeDirectories hmake
  · intro hfile
    rcases FileTree.write_eq_error_iff.1 hwrite with ⟨fault, -, rfl⟩ | ⟨_, fault, -, hcontent, -⟩
    · obtain ⟨saved, hsaved⟩ := FileTree.exists_write_of_isFile hfile s.isEncodable_written
      cases hwrite.symm.trans hsaved
    · obtain ⟨bytes, hbytes⟩ := Utf8.exists_encode_strict_iff.2 s.isEncodable_written
      cases hbytes.symm.trans hcontent

/-- A file holds only one value for the settings. -/
theorem Stored.eq (h : s.Stored room tree directory p) (h' : s'.Stored room tree directory p) :
    s = s' := by
  by_cases hfile : tree.isFile directory p = .ok true
  · exact Except.ok.inj ((h.loaded hfile).symm.trans (h'.loaded hfile))
  · exact (h.fresh hfile).trans (h'.fresh hfile).symm

theorem stored_defaults (room : Yaml.Room) (h : tree.isFile directory p ≠ .ok true) :
    defaults.Stored room tree directory p :=
  ⟨fun hfile => absurd hfile h, fun _ => rfl⟩

end Settings

namespace CommandLine
open World
variable {w : World} {args : List Text} {command : Command} {p : Path} {s s' : Settings}
  {files after : FileTree} {surroundings : Path.Surroundings}

/-- What commands make of sound settings is sound. -/
theorem World.Edit.isSound (h : Edit w command s s') (hs : s.IsSound) : s'.IsSound := by
  cases h with
  | addRule named custom made =>
    exact hs.upsertRule
      ⟨custom, mt trim_trim_eq_nil_iff.1 named, Rule.exists_ofCustom_iff.1 ⟨_, made⟩⟩
  | removeRule there => exact hs.removeRule _
  | addRelease named added => exact hs.addRelease (mt trim_trim_eq_nil_iff.1 named) added
  | removeRelease there => exact hs.removeRelease _

/-- Arguments that ask for no command but one that edits the settings in a file. -/
def EditsFile (w : World) (args : List Text) (p : Path) : Prop :=
  ∀ verbosity showsTracebacks command,
    Request.read ⟨w.files, w.directory⟩ args = some (.run verbosity showsTracebacks command) →
      ∃ place, editedPlace? command = some place ∧ ∀ q, w.settingsFile place = .ok q → q = p

/-- Settings that a run saves in a file are loaded from it, however deep files may nest. -/
def LoadsBack (w : World) (args : List Text) (p : Path) : Prop :=
  ∀ verbosity showsTracebacks command s s',
    Request.read ⟨w.files, w.directory⟩ args = some (.run verbosity showsTracebacks command) →
      s.Stored w.room w.files w.directory p → Edit w command s s' →
        s'.save w.files w.directory p = .ok (run w args).files →
          ∀ room, Settings.load room (run w args).files w.directory p = .ok s'

/-- The files that runs can leave which edit the settings in one file, begun without that file. -/
inductive Maintained (surroundings : Path.Surroundings) (p : Path) : FileTree → Prop
  | fresh {files : FileTree} (absent : files.isFile surroundings.directory p ≠ .ok true) :
      Maintained surroundings p files
  | run {w : World} {args : List Text} (here : w.surroundings = surroundings)
      (maintained : Maintained surroundings p w.files) (edits : EditsFile w args p)
      (loads : LoadsBack w args p) : Maintained surroundings p (run w args).files

/-- A run that edits sound settings leaves sound settings, whether it succeeds or not. -/
theorem exists_stored_run
    (hstored : ∃ s : Settings, (∀ room, s.Stored room w.files w.directory p) ∧ s.IsSound)
    (edits : EditsFile w args p) (loads : LoadsBack w args p) :
    ∃ s : Settings, (∀ room, s.Stored room (run w args).files w.directory p) ∧ s.IsSound := by
  by_cases hcommand : ∃ verbosity showsTracebacks command,
      Request.read ⟨w.files, w.directory⟩ args = some (.run verbosity showsTracebacks command)
  · obtain ⟨verbosity, showsTracebacks, command, hread⟩ := hcommand
    obtain ⟨place, hplace, hp⟩ := edits _ _ _ hread
    obtain ⟨s, hs, hsound⟩ := hstored
    have hends := ends_perform hplace (w.start verbosity showsTracebacks) rfl
    have hfiles := (run_of_read hread).1
    have hloads (s' : Settings) := loads verbosity showsTracebacks command s s' hread (hs _)
    rw [← hfiles] at hends
    generalize (run w args).files = after at *
    generalize ((w.perform command).run.run _).1 = result at hends
    cases hends with
    | refused failure => exact ⟨s, hs, hsound⟩
    | saved printed hq stored edit save =>
      obtain rfl := hp _ hq
      obtain rfl := (hs _).eq stored
      obtain ⟨made, -, hwrite⟩ := Settings.save_eq_ok_iff.1 save
      exact ⟨_, fun room => ⟨fun _ => hloads _ edit save room,
        fun hnone => absurd (FileTree.isFile_of_write hwrite) hnone⟩, edit.isSound hsound⟩
    | unfinished failure hq reached stored edit save =>
      obtain rfl := hp _ hq
      exact ⟨_, fun room => Settings.stored_defaults room (Settings.isFile_of_save save),
        Settings.isSound_defaults⟩
  · rw [files_of_no_command hcommand]
    exact hstored

/-- After any run of commands that edit one settings file, begun without the file, the settings in
it are sound, however deep files may nest. Their rules can be listed, and each is the one that its
identifier names. -/
theorem exists_stored_of_maintained (h : Maintained surroundings p files) :
    ∃ s : Settings, (∀ room, s.Stored room files surroundings.directory p) ∧ s.IsSound ∧
      ∃ rules, Rule.available s = .ok rules ∧ ∀ r ∈ rules, Rule.resolve r.id s = .ok r := by
  obtain ⟨s, hs, hsound⟩ : ∃ s : Settings,
      (∀ room, s.Stored room files surroundings.directory p) ∧ s.IsSound := by
    induction h with
    | fresh absent =>
      exact ⟨_, fun room => Settings.stored_defaults room absent, Settings.isSound_defaults⟩
    | run here maintained edits loads ih =>
      cases here
      exact exists_stored_run ih edits loads
  exact ⟨s, hs, hsound, hsound.exists_available⟩

section Requests
variable {verbosity : Nat} {showsTracebacks : Bool} {place : SettingsPlace}

theorem editsFile_of_read (hplace : editedPlace? command = some place)
    (hp : w.settingsFile place = .ok p)
    (hread : Request.read ⟨w.files, w.directory⟩ args =
      some (.run verbosity showsTracebacks command)) : EditsFile w args p := by
  intro _ _ other hother
  obtain ⟨-, -, rfl⟩ := Request.run.inj (Option.some.inj (hread.symm.trans hother))
  exact ⟨place, hplace, fun q hq => Except.ok.inj (hq.symm.trans hp)⟩

/-- Settings are loaded as they were saved if none of their texts has a next line character. -/
theorem loadsBack_of_read
    (hread : Request.read ⟨w.files, w.directory⟩ args =
      some (.run verbosity showsTracebacks command))
    (h : ∀ s s', s.Stored w.room w.files w.directory p → Edit w command s s' →
      ∀ t ∈ s'.texts, .char '\x85' ∉ t) : LoadsBack w args p := by
  intro _ _ other s s' hother hs edit save room
  obtain ⟨-, -, rfl⟩ := Request.run.inj (Option.some.inj (hread.symm.trans hother))
  rw [Settings.load_of_save save, (Settings.mapTexts_eq_self_iff (Settings.readBack_name _)).2]
  intro t ht
  exact Yaml.readBack_eq_self_iff.2 fun _ => h s s' hs edit t ht

end Requests

/-- A directory without settings. -/
def emptyDirectory : World where
  files := ⟨[(["w"], .directory)]⟩
  surroundings := { directory := .ofText "/w" }
  today := ⟨2024, 5, 1⟩
  now := 0
  room := machineRoom

/-- Arguments that add a rule of one segment. -/
def ruleArguments (segment : Text) : List Text :=
  [("rules" : Text), ("add" : Text), ("Hashes " : Text), ("--option" : Text), segment,
    ("--id" : Text),
    ("hashes" : Text)]

/-- The directory behind the addition of a rule. -/
def ruleDirectory : World :=
  { emptyDirectory with files := (run emptyDirectory (ruleArguments "pathHash")).files }

/-- A rule that is added, and one that is refused for its segment. -/
theorem exists_stored_of_maintained_rule :
    ∃ s : Settings,
      (∀ room, s.Stored room (run ruleDirectory (ruleArguments "hash")).files (.ofText "/w")
        (.ofText "/w/cssgps.yml")) ∧ s.IsSound ∧
      ∃ rules, Rule.available s = .ok rules ∧ ∀ r ∈ rules, Rule.resolve r.id s = .ok r := by
  have hread : Request.read ⟨emptyDirectory.files, emptyDirectory.directory⟩
      (ruleArguments "pathHash") = some (.run 0 false
        (.addRule "Hashes " [("pathHash" : Text)] (some ("hashes" : Text)) "--" {})) := by
    decide +kernel
  have hreadAgain : Request.read ⟨ruleDirectory.files, ruleDirectory.directory⟩
      (ruleArguments "hash") = some (.run 0 false
        (.addRule "Hashes " [("hash" : Text)] (some ("hashes" : Text)) "--" {})) := by
    decide +kernel
  have hnone : emptyDirectory.files.isFile (.ofText "/w") (.ofText "/w/cssgps.yml") ≠ .ok true := by
    decide
  have hadded : Maintained emptyDirectory.surroundings (.ofText "/w/cssgps.yml")
      (run emptyDirectory (ruleArguments "pathHash")).files := by
    refine .run rfl (.fresh hnone) (editsFile_of_read rfl (by decide) hread)
      (loadsBack_of_read hread fun s s' hs edit => ?_)
    obtain rfl := hs.fresh hnone
    cases edit
    decide +kernel
  have hrefused : LoadsBack ruleDirectory (ruleArguments "hash") (.ofText "/w/cssgps.yml") := by
    refine loadsBack_of_read hreadAgain fun s s' hs edit => ?_
    cases edit with
    | addRule named custom made =>
      have hknown := Rule.exists_ofCustom_iff.1 ⟨_, made⟩ "hash" List.mem_cons_self
      exact absurd hknown (by decide)
  exact exists_stored_of_maintained
    (.run rfl hadded (editsFile_of_read rfl (by decide +kernel) hreadAgain) hrefused)

end CommandLine
end MarkupNaming
