import MarkupNaming.Proofs.CommandLine.Upkeep
import MarkupNaming.Proofs.Generation.Repetition
import MarkupNaming.Proofs.Settings.RuleMap

/-!
# Settings found again

Commands that read settings and commands that change them choose the file on their own, and only
the latter make a new one. Both come to the same file: a file written over another one leaves all
names as they were, and a new file has the name that is tried first. So what a command saves at a
place is what the next one finds there.
-/
namespace MarkupNaming
open Text Naming

namespace Settings
variable {s : Settings} {tree saved : FileTree} {directory workspace p q : Path}

theorem isFile_of_save_over (hfile : tree.isFile directory p = .ok true)
    (h : s.save tree directory p = .ok saved) :
    saved.isFile directory q = tree.isFile directory q := by
  obtain ⟨made, hmade, hwrite⟩ := save_eq_ok_iff.1 h
  rw [FileTree.makeDirectories_of_isFile hfile] at hmade
  obtain rfl := Except.ok.inj hmade
  exact FileTree.isFile_of_write_over hfile hwrite

theorem isFile_save (h : s.save tree directory p = .ok saved) :
    saved.isFile directory p = .ok true := by
  obtain ⟨made, -, hwrite⟩ := save_eq_ok_iff.1 h
  exact FileTree.isFile_of_write hwrite

/-- A workspace still has the settings file that was saved. -/
theorem discover_save_over (hfound : discover tree directory workspace = .ok (some p))
    (h : s.save tree directory p = .ok saved) :
    discover saved directory workspace = .ok (some p) := by
  have hsame : saved.isFile directory = tree.isFile directory :=
    funext fun q => isFile_of_save_over (of_findM? hfound).2 h
  rw [discover, hsame]
  exact hfound

/-- A new settings file has the name that is tried first. -/
theorem discover_save_new
    (h : s.save tree directory (workspace ++ Path.ofText (fileNames.headD [])) = .ok saved) :
    discover saved directory workspace =
      .ok (some (workspace ++ Path.ofText (fileNames.headD []))) := by
  have hfile := isFile_save h
  rw [discover, fileNames, List.map_cons, List.findM?]
  change (saved.isFile directory (workspace ++ Path.ofText (fileNames.headD [])) >>= _) = _
  rw [hfile]
  rfl

end Settings

namespace CommandLine
open Diagnostics CommandLine.Action
variable {w next : World} {place : SettingsPlace} {p : Path} {s s' : Settings}

namespace World

/-- Whether commands find settings at a place, whatever they have shown before. -/
def Finds (w : World) (place : SettingsPlace) (s : Settings) : Prop :=
  ∀ session, ((w.settings place).run.run session).1 = .ok s

theorem run_load (h : Settings.load w.room w.files w.directory p = .ok s) (session : Session) :
    (w.load p).run.run session = (.ok s, session) := by
  rw [World.load, h]
  rfl

/-- Settings are found in the file in which they are changed, if there is one. -/
theorem finds_of_load (hfile : w.files.isFile w.directory p = .ok true)
    (hplace : place.config = some p ∨
      place.config = none ∧ w.discovered place = .ok (some p))
    (h : Settings.load w.room w.files w.directory p = .ok s) : w.Finds place s := by
  intro session
  rcases hplace with hconfig | ⟨hconfig, hfound⟩
  · rw [World.settings, hconfig]
    dsimp only
    rw [hfile]
    exact congrArg Prod.fst (run_load h session)
  · rw [World.settings, hconfig]
    dsimp only
    rw [hfound]
    exact congrArg Prod.fst (run_load h _)

/-- Without a file, the defaults are found. -/
theorem finds_defaults (hconfig : place.config = none) (hnone : w.discovered place = .ok none) :
    w.Finds place .defaults := by
  intro session
  rw [World.settings, hconfig]
  dsimp only
  rw [hnone]
  rfl

/-- Where settings were saved, the commands behind find them. -/
theorem finds_of_save (hp : w.settingsFile place = .ok p)
    (hsave : s.save w.files w.directory p = .ok next.files)
    (hload : Settings.load next.room next.files w.directory p = .ok s)
    (hdirectory : next.directory = w.directory) : next.Finds place s := by
  have hfile : next.files.isFile next.directory p = .ok true := by
    rw [hdirectory]
    exact Settings.isFile_save hsave
  rw [← hdirectory] at hload
  have hdiscovered : next.discovered place =
      Settings.discover next.files w.directory (w.workspace place) := by
    rw [discovered, workspace, workspace, hdirectory]
  rw [settingsFile] at hp
  cases hconfig : place.config with
  | some q =>
    rw [hconfig] at hp
    obtain rfl := Except.ok.inj hp
    exact finds_of_load hfile (.inl hconfig) hload
  | none =>
    rw [hconfig] at hp
    refine finds_of_load hfile (.inr ⟨hconfig, hdiscovered.trans ?_⟩) hload
    cases hfound : w.discovered place with
    | error fault =>
      rw [hfound] at hp
      cases hp
    | ok found =>
      rw [hfound] at hp
      obtain rfl := Except.ok.inj hp
      -- A file that was there is written over; otherwise no name that could hide the new one was.
      cases found with
      | some q => exact Settings.discover_save_over hfound hsave
      | none => exact Settings.discover_save_new hsave

theorem ruleId_ne_nil (w : World) (id : Option Text) : w.ruleId id ≠ [] := by
  rw [ruleId]
  cases hgiven : id.filter (!·.isEmpty) with
  | none => exact List.cons_ne_nil _ _
  | some given =>
    have hne := (Option.filter_eq_some_iff.1 hgiven).2
    simpa using hne

end World

open World

/-- A rule that was added is the one that its identifier selects. -/
theorem World.Edit.exists_selectRule {name : Text} {segments : List Text} {id : Option Text}
    {separator : Text} (h : Edit w (.addRule name segments id separator place) s s') :
    ∃ rule, rule.id = w.ruleId id ∧ Rule.resolve (w.ruleId id) s' = .ok rule ∧
      ∀ (t : Target) (document : Text) (offset : Int), t.naming.rule = some (w.ruleId id) →
        t.naming.segments = [] →
        (next.request t s' document offset).selectRule = .ok rule := by
  cases h with
  | @addRule _ _ _ _ _ _ rule named custom made =>
    have hresolve : Rule.resolve (w.ruleId id)
        (s.upsertRule ⟨w.ruleId id, trim name, segments, separator⟩) = .ok rule := by
      have hfound := Settings.findRule?_upsertRule s ⟨w.ruleId id, trim name, segments, separator⟩
        (w.ruleId id)
      rw [if_pos rfl] at hfound
      rw [Rule.resolve, custom]
      dsimp only at hfound ⊢
      rw [hfound]
      dsimp only
      rw [made]
      rfl
    refine ⟨rule, Rule.id_of_ofCustom made, hresolve, fun t document offset hrule hsegments => ?_⟩
    exact (Generation.Request.selectRule_of_ruleId hrule (w.ruleId_ne_nil id) hsegments).trans
      hresolve

/-- What a command saves at a place is what any command finds there next, whichever files there
were, if the file loads as it was saved. A rule that was added is then the one that its identifier
selects. -/
theorem finds_of_run {args : List Text} {verbosity : Nat} {showsTracebacks : Bool}
    {command : Command}
    (hread : Request.read ⟨w.files, w.directory⟩ args =
      some (.run verbosity showsTracebacks command))
    (hplace : editedPlace? command = some place) (hsuccess : (run w args).exitCode = 0) :
    ∃ p s s', w.settingsFile place = .ok p ∧ s.Stored w.room w.files w.directory p ∧
      Edit w command s s' ∧ s'.save w.files w.directory p = .ok (run w args).files ∧
      ∀ next : World, next.files = (run w args).files → next.directory = w.directory →
        Settings.load next.room (run w args).files w.directory p = .ok s' →
          next.Finds place s' ∧
          ∀ name segments id separator,
            command = .addRule name segments id separator place →
            ∃ rule, rule.id = w.ruleId id ∧ Rule.resolve (w.ruleId id) s' = .ok rule ∧
              ∀ (t : Target) (document : Text) (offset : Int),
                t.naming.rule = some (w.ruleId id) → t.naming.segments = [] →
                (next.request t s' document offset).selectRule = .ok rule := by
  obtain ⟨hfiles, hcode⟩ := run_of_read hread
  obtain ⟨printouts, hprinted, -⟩ := hcode.1 hsuccess
  have hends := ends_perform hplace (w.start verbosity showsTracebacks) rfl
  rw [← hfiles, hprinted] at hends
  generalize (run w args).files = after at *
  cases hends with
  | @saved p s s' _ _ hp stored edit save =>
    refine ⟨p, s, s', hp, stored, edit, save, fun next hnext hdirectory hload => ⟨?_, ?_⟩⟩
    · subst hnext
      exact finds_of_save hp save hload hdirectory
    · rintro name segments id separator rfl
      exact edit.exists_selectRule

/-- A directory with settings in a hidden file. -/
def hiddenDirectory : World :=
  { emptyDirectory with
    files := ⟨[(["w"], .directory),
      (["w", ".cssgps.yml"], .file (Utf8.ofString "abbrLength: 4\n"))]⟩ }

theorem finds_of_run_hidden :
    ∃ s rule, World.Finds { hiddenDirectory with
        files := (run hiddenDirectory (ruleArguments "pathHash")).files } {} s ∧
      s.abbreviationLength.val = 4 ∧ Rule.resolve "hashes" s = .ok rule := by
  have hread : Request.read ⟨hiddenDirectory.files, hiddenDirectory.directory⟩
      (ruleArguments "pathHash") = some (.run 0 false
        (.addRule "Hashes " [("pathHash" : Text)] (some ("hashes" : Text)) "--" {})) := by
    decide +kernel
  obtain ⟨p, s, s', hp, stored, edit, save, hnext⟩ := finds_of_run hread rfl (by decide +kernel)
  have hfile : hiddenDirectory.settingsFile {} = .ok (.ofText "/w/.cssgps.yml") := by
    decide
  obtain rfl := Except.ok.inj (hp.symm.trans hfile)
  have hloaded (s : Settings)
      (stored : s.Stored hiddenDirectory.room hiddenDirectory.files hiddenDirectory.directory
        (.ofText "/w/.cssgps.yml")) : s = { Settings.defaults with
          abbreviationLength := ⟨4, by decide, by decide⟩ } := by
    have hload := stored.loaded (by decide)
    have hvalue : (Settings.load hiddenDirectory.room hiddenDirectory.files
        hiddenDirectory.directory (.ofText "/w/.cssgps.yml")).toOption =
          some { Settings.defaults with
          abbreviationLength := ⟨4, by decide, by decide⟩ } := by
      decide +kernel
    rw [hload] at hvalue
    exact Option.some.inj hvalue
  have hback : LoadsBack hiddenDirectory (ruleArguments "pathHash") (.ofText "/w/.cssgps.yml") := by
    refine loadsBack_of_read hread fun s s' stored edit => ?_
    obtain rfl := hloaded s stored
    cases edit
    decide
  obtain ⟨hfinds, hrule⟩ := hnext { hiddenDirectory with
    files := (run hiddenDirectory (ruleArguments "pathHash")).files } rfl rfl
    (hback _ _ _ s s' hread stored edit save _)
  obtain ⟨rule, -, hresolve, -⟩ := hrule _ _ _ _ rfl
  refine ⟨s', rule, hfinds, ?_, hresolve⟩
  obtain rfl := hloaded s stored
  cases edit
  rfl

end CommandLine
end MarkupNaming
