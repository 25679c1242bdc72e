import MarkupNaming.Proofs.CommandLine.Parts
import MarkupNaming.Proofs.Files.Growth

/-!
# Places of settings

The paths under which commands edit settings. They come from arguments or from the directory of
the program, so each of them starts at a root and names what it leads to.
-/
namespace MarkupNaming
open Text

namespace Path
variable {directory p : Path} {components : List Text}

/-- Components that lead on or back. -/
def AreSteps (components : List Text) : Prop :=
  ∀ c ∈ components, c = [.char '.', .char '.'] ∨ IsName c

theorem isName_withoutParents (h : AreSteps components) :
    ∀ c ∈ withoutParents components, IsName c := by
  have hfold (before : List Text) (hbefore : ∀ c ∈ before, IsName c) :
      ∀ c ∈ components.foldl
        (fun before (c : Text) =>
          if c = [.char '.', .char '.'] then before.dropLast else before ++ [c])
        before, IsName c := by
    induction components generalizing before with
    | nil => exact hbefore
    | cons c components ih =>
      obtain ⟨hc, hcomponents⟩ := List.forall_mem_cons.1 h
      refine ih hcomponents _ ?_
      dsimp only
      split
      · exact fun d hd => hbefore d ((List.dropLast_sublist before).subset hd)
      · next hparent =>
        exact List.forall_mem_append.2
          ⟨hbefore, List.forall_mem_singleton.2 (hc.resolve_left hparent)⟩
  exact hfold [] (List.forall_mem_nil _)

theorem IsPlain.resolve {t : Text} (hdirectory : directory.IsPlain)
    (h : AreSteps (ofText t).components) : (Path.resolve directory t).IsPlain := by
  refine ⟨nofun, isName_withoutParents fun c hc => ?_⟩
  change c ∈ (append directory (ofText t)).components at hc
  rw [append] at hc
  split at hc
  · exact h c hc
  · rcases List.mem_append.1 hc with hc | hc
    · exact .inr (hdirectory.named c hc)
    · exact h c hc

/-- A file in a directory. -/
theorem IsPlain.append_name (hdirectory : directory.IsPlain) {name : Text}
    (hname : (ofText name).root = .relative)
    (hnamed : ∀ c ∈ (ofText name).components, IsName c) :
    (directory ++ ofText name).IsPlain := by
  rw [append_of_relative directory hname]
  exact ⟨hdirectory.rooted, List.forall_mem_append.2 ⟨hdirectory.named, hnamed⟩⟩

end Path

namespace CommandLine
variable {p : Path} {t : Text} {place : SettingsPlace} {command : Command} {args : List Text}

/-- A place of settings under paths that start at a root. -/
structure SettingsPlace.IsPlain (place : SettingsPlace) : Prop where
  config : ∀ p, place.config = some p → p.IsPlain
  workspace : ∀ p, place.workspace = some p → p.IsPlain

/-! ## Looking paths up -/

namespace Whereabouts

theorem isName_of_lookup {root : Root} {passed : List Text} {c : Text}
    (hparent : c ≠ [.char '.', .char '.'])
    (h : lookupFault? ⟨root, passed ++ [c]⟩ = none) : Path.IsName c := by
  have hmem : c ∈ passed ++ [c] := List.mem_append_right _ List.mem_cons_self
  rw [lookupFault?] at h
  split at h
  · cases h
  next bytes hbytes =>
  split at h
  · cases h
  next hnul =>
  refine ⟨hparent, fun hc => hnul ?_, ?_⟩
  · exact (Path.mem_text_iff (by decide) (by decide)).2 ⟨c, hmem, hc⟩
  · exact Path.isNameable_text_iff.1 (Utf8.exists_encode_escape_iff.1 ⟨bytes, hbytes⟩) c hmem

/-- Every component that leads on is looked up, also one that is taken back later. -/
theorem areSteps_of_lookups {root : Root} {passed components : List Text}
    (h : (lookups root passed components).findSome? lookupFault? = none) :
    Path.AreSteps components := by
  have hnone := List.findSome?_eq_none_iff.1 h
  clear h
  induction components generalizing passed with
  | nil => exact List.forall_mem_nil _
  | cons c rest ih =>
    rw [lookups] at hnone
    refine List.forall_mem_cons.2 ?_
    split at hnone
    · next hparent =>
      refine ⟨.inl hparent, ?_⟩
      split at hnone <;> exact ih hnone
    · next hparent =>
      obtain ⟨hc, hrest⟩ := List.forall_mem_cons.1 hnone
      exact ⟨.inr (isName_of_lookup hparent hc), ih hrest⟩

end Whereabouts

/-! ## Reading arguments -/

section Reading
variable {w : Whereabouts} (hdirectory : w.directory.IsPlain)
include hdirectory

theorem isPlain_of_pathWhere {condition : Option Entry → Bool}
    (h : w.pathWhere condition t = .ok p) : p.IsPlain := by
  obtain ⟨q, hq, hp⟩ := Except.exists_of_bind h
  unfold Whereabouts.resolve at hq
  dsimp only at hq
  split at hq
  · cases hq
  · next hnone =>
    obtain rfl := Except.ok.inj hq
    split at hp
    · obtain rfl := Except.ok.inj hp
      exact hdirectory.resolve (Whereabouts.areSteps_of_lookups hnone)
    · cases hp

theorem isPlain_of_optional {a : Arguments} {name : OptionName} {condition : Option Entry → Bool}
    {given : Option Path} (h : a.optional name (w.pathWhere condition) = .ok given) :
    ∀ p, given = some p → p.IsPlain := by
  rintro p rfl
  rw [Arguments.optional] at h
  cases hvalue : a.value? name with
  | none =>
    rw [hvalue] at h
    cases h
  | some t =>
    rw [hvalue] at h
    obtain ⟨q, hq, hp⟩ := Except.exists_of_bind h
    obtain rfl := Option.some.inj (Except.ok.inj hp)
    exact isPlain_of_pathWhere hdirectory hq

theorem isPlain_of_place {a : Arguments} (h : a.place w = .ok place) : place.IsPlain := by
  obtain ⟨config, hconfig, h⟩ := Except.exists_of_bind h
  obtain ⟨workspace, hworkspace, h⟩ := Except.exists_of_bind h
  obtain rfl := Except.ok.inj h
  exact ⟨isPlain_of_optional hdirectory hconfig, isPlain_of_optional hdirectory hworkspace⟩

omit hdirectory in
/-- A command is read off arguments that were taken apart. -/
theorem exists_of_readWith {allowed : List OptionName}
    {make : Arguments → Except Refusal Command}
    (h : Command.readWith w args allowed make = .ok (some command)) :
    ∃ a, make a = .ok command := by
  unfold Command.readWith at h
  split at h
  · next a hread =>
    split at h
    · cases h
    · obtain ⟨_, -, h⟩ := Except.exists_of_bind h
      obtain ⟨made, hmade, h⟩ := Except.exists_of_bind h
      obtain rfl := Option.some.inj (Except.ok.inj h)
      exact ⟨a, hmade⟩
  · cases h

omit hdirectory in
theorem exists_of_readListing {make : SettingsPlace → Command}
    (h : Command.readListing w args make = .ok (some command)) : ∃ given, command = make given := by
  obtain ⟨a, h⟩ := exists_of_readWith h
  split at h
  · obtain ⟨given, -, h⟩ := Except.exists_of_bind h
    exact ⟨given, (Except.ok.inj h).symm⟩
  · cases h

theorem exists_of_readNamed {make : Text → SettingsPlace → Command}
    (h : Command.readNamed w args make = .ok (some command)) :
    ∃ word given, given.IsPlain ∧ command = make word given := by
  obtain ⟨a, h⟩ := exists_of_readWith h
  obtain ⟨word, -, h⟩ := Except.exists_of_bind h
  obtain ⟨given, hgiven, h⟩ := Except.exists_of_bind h
  exact ⟨word, given, isPlain_of_place hdirectory hgiven, (Except.ok.inj h).symm⟩

/-- A command that edits settings does so under plain paths. -/
def EditsPlainly (command : Command) : Prop :=
  ∀ place, World.editedPlace? command = some place → place.IsPlain

omit hdirectory in
theorem EditsPlainly.of_none (h : World.editedPlace? command = none) :
    EditsPlainly command := by
  intro place hplace
  cases h.symm.trans hplace

omit hdirectory in
theorem EditsPlainly.of_some {given : SettingsPlace}
    (h : World.editedPlace? command = some given) (hgiven : given.IsPlain) :
    EditsPlainly command := by
  intro place hplace
  obtain rfl : given = place := Option.some.inj (h.symm.trans hplace)
  exact hgiven

theorem editsPlainly_of_readRules (h : Command.readRules w args = .ok (some command)) :
    EditsPlainly command := by
  cases args with
  | nil => cases h
  | cons word args =>
    rw [Command.readRules] at h
    split at h
    · obtain ⟨given, rfl⟩ := exists_of_readListing h
      exact .of_none rfl
    split at h
    · obtain ⟨id, given, hgiven, rfl⟩ := exists_of_readNamed hdirectory h
      exact .of_some rfl hgiven
    split at h
    · obtain ⟨a, h⟩ := exists_of_readWith h
      split at h
      · cases h
      · obtain ⟨name, -, h⟩ := Except.exists_of_bind h
        obtain ⟨given, hgiven, h⟩ := Except.exists_of_bind h
        obtain rfl := Except.ok.inj h
        exact .of_some rfl (isPlain_of_place hdirectory hgiven)
    · cases h

theorem editsPlainly_of_readReleases (h : Command.readReleases w args = .ok (some command)) :
    EditsPlainly command := by
  cases args with
  | nil => cases h
  | cons word args =>
    rw [Command.readReleases] at h
    split at h
    · obtain ⟨given, rfl⟩ := exists_of_readListing h
      exact .of_none rfl
    split at h
    · obtain ⟨given, rfl⟩ := exists_of_readListing h
      exact .of_none rfl
    split at h
    · obtain ⟨name, given, hgiven, rfl⟩ := exists_of_readNamed hdirectory h
      exact .of_some rfl hgiven
    split at h
    · obtain ⟨a, h⟩ := exists_of_readWith h
      split at h
      · obtain ⟨given, hgiven, h⟩ := Except.exists_of_bind h
        obtain rfl := Except.ok.inj h
        exact .of_some rfl (isPlain_of_place hdirectory hgiven)
      · cases h
    · cases h

omit hdirectory in
theorem exists_of_readGroup {commands : List Text → Except Refusal (Option Command)}
    (h : Command.readGroup args commands = .ok (some command)) :
    ∃ words, commands words = .ok (some command) := by
  unfold Command.readGroup at h
  split at h
  · next a hread =>
    split at h
    · cases h
    · exact ⟨a.words, h⟩
  · cases h

theorem editsPlainly_of_read {word : Text} (h : Command.read w args word = .ok (some command)) :
    EditsPlainly command := by
  rw [Command.read] at h
  split at h
  · obtain ⟨a, h⟩ := exists_of_readWith h
    obtain ⟨t, -, h⟩ := Except.exists_of_bind h
    obtain rfl := Except.ok.inj h
    exact .of_none rfl
  split at h
  · obtain ⟨a, h⟩ := exists_of_readWith h
    obtain ⟨t, -, h⟩ := Except.exists_of_bind h
    obtain ⟨output, -, h⟩ := Except.exists_of_bind h
    obtain rfl := Except.ok.inj h
    exact .of_none rfl
  split at h
  · obtain ⟨a, h⟩ := exists_of_readWith h
    obtain ⟨file, -, h⟩ := Except.exists_of_bind h
    obtain ⟨cursor, -, h⟩ := Except.exists_of_bind h
    obtain rfl := Except.ok.inj h
    exact .of_none rfl
  split at h
  · obtain ⟨a, h⟩ := exists_of_readWith h
    obtain ⟨file, -, h⟩ := Except.exists_of_bind h
    obtain ⟨cursor, -, h⟩ := Except.exists_of_bind h
    obtain ⟨given, -, h⟩ := Except.exists_of_bind h
    obtain rfl := Except.ok.inj h
    exact .of_none rfl
  split at h
  · obtain ⟨words, h⟩ := exists_of_readGroup h
    exact editsPlainly_of_readRules hdirectory h
  split at h
  · obtain ⟨words, h⟩ := exists_of_readGroup h
    exact editsPlainly_of_readReleases hdirectory h
  · cases h

/-- Arguments ask for no command but one that edits settings under plain paths. -/
theorem editsPlainly_of_request {verbosity : Nat} {showsTracebacks : Bool}
    (h : Request.read w args = some (.run verbosity showsTracebacks command)) :
    EditsPlainly command := by
  obtain ⟨a, -, h⟩ := Option.bind_eq_some_iff.1 h
  split at h
  · cases h
  · cases h
  · split at h
    · split at h
      · cases h
      · next made hmade =>
        obtain ⟨-, -, rfl⟩ := Request.run.inj (Option.some.inj h)
        exact editsPlainly_of_read hdirectory hmade
      · cases h
      · cases h
    · cases h

end Reading

/-- The file in which a command edits settings has a plain path. -/
theorem isPlain_of_settingsFile {w : World} (hdirectory : w.directory.IsPlain)
    (hplace : place.IsPlain) (h : w.settingsFile place = .ok p) : p.IsPlain := by
  have hworkspace : (w.workspace place).IsPlain := by
    rw [World.workspace]
    cases hgiven : place.workspace with
    | none => exact hdirectory
    | some q => exact hplace.workspace q hgiven
  have hnames : ∀ name ∈ Settings.fileNames, (Path.ofText name).root = .relative ∧
      ∀ c ∈ (Path.ofText name).components, Path.IsName c := by
    decide
  have hinside (name : Text) (hname : name ∈ Settings.fileNames) :
      (w.workspace place ++ Path.ofText name).IsPlain :=
    hworkspace.append_name (hnames name hname).1 (hnames name hname).2
  rw [World.settingsFile] at h
  cases hconfig : place.config with
  | some q =>
    rw [hconfig] at h
    exact Except.ok.inj h ▸ hplace.config q hconfig
  | none =>
    rw [hconfig] at h
    cases hfound : w.discovered place with
    | error fault =>
      rw [hfound] at h
      cases h
    | ok found =>
      rw [hfound] at h
      obtain rfl := Except.ok.inj h
      cases found with
      | none => exact hinside _ (by decide)
      | some q =>
        obtain ⟨name, hname, rfl⟩ := List.mem_map.1 (of_findM? hfound).1
        exact hinside name hname

end CommandLine
end MarkupNaming
