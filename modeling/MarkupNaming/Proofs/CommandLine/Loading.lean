import MarkupNaming.Proofs.CommandLine.Action
import MarkupNaming.Proofs.Text.Decoding
import MarkupNaming.Proofs.Yaml.Faults.Values

/-!
# Loading settings

What comes of loading settings from a file, whatever it holds: settings, or a fault that is reported
as one of the settings. Bytes that are no text always end in another fault, which no command
expects. A text does so only if it writes a number that is too large, describes a node without a
value, or goes further down than the reader: by collections within each other, by mappings that
merge each other, or by entries that stand for mappings.
-/
namespace MarkupNaming
open Text

namespace Settings
variable {room : Yaml.Room} {path : Path} {content : List UInt8}

/-- A text that is read, unless it breaks a rule. -/
def IsReported (room : Yaml.Room) (t : Text) : Prop :=
  ∀ fault, Yaml.read room (normalizeBreaks t) = .error fault → Yaml.IsSyntaxFault fault

/-- How loading settings from the content of a file can end, for a reader with some room. -/
inductive Loads (room : Yaml.Room) (content : List UInt8) : Except LoadFault Settings → Prop
  | settings {t : Text} (hcontent : Utf8.encode .strict t = .ok content) (h : IsReported room t)
    (s : Settings) : Loads room content (.ok s)
  | reported {t : Text} (hcontent : Utf8.encode .strict t = .ok content) (h : IsReported room t)
    (fault : SettingsFault) : Loads room content (.error (.settings fault))
  | undecodable (hcontent : ∀ t, Utf8.encode .strict t ≠ .ok content) (fault : Utf8.Fault) :
    Loads room content (.error (.undecodable content fault))
  | scalar {t : Text} (hcontent : Utf8.encode .strict t = .ok content) {fault : Yaml.ScalarFault}
    (hread : Yaml.read room (normalizeBreaks t) = .error (.scalar fault))
    (h : Yaml.Fails room (normalizeBreaks t) (.scalar fault)) :
    Loads room content (.error (.scalar fault))
  | tooDeep {t : Text} (hcontent : Utf8.encode .strict t = .ok content)
    (hread : Yaml.read room (normalizeBreaks t) = .error .tooDeep)
    (h : Yaml.Fails room (normalizeBreaks t) .tooDeep) : Loads room content (.error .tooDeep)

theorem loads_ofContent (room : Yaml.Room) (path : Path) (content : List UInt8) :
    Loads room content (ofContent room path content) := by
  rw [ofContent]
  cases hdecode : Utf8.decode content with
  | error fault =>
    refine .undecodable (fun t hcontent => ?_) fault
    cases hdecode.symm.trans (Utf8.decode_of_encode hcontent)
  | ok t =>
    have hcontent : Utf8.encode .strict t = .ok content := Utf8.encode_decode hdecode
    dsimp only
    cases hread : Yaml.read room (normalizeBreaks t) with
    | error fault =>
      have hfails := Yaml.fails_of_read hread
      cases fault with
      | syntaxFault reason =>
        refine .reported hcontent (fun fault h => ?_) _
        exact ⟨reason, (Except.error.inj (hread.symm.trans h)).symm⟩
      | scalar fault => exact .scalar hcontent hread hfails
      | tooDeep => exact .tooDeep hcontent hread hfails
    | ok v =>
      have hreported : IsReported room t := fun fault h => by cases hread.symm.trans h
      dsimp only
      cases ofValue v with
      | ok s => exact .settings hcontent hreported s
      | error fault => exact .reported hcontent hreported fault

end Settings

namespace CommandLine
open Diagnostics

/-- How a command fails for which settings cannot be loaded: only a fault of the settings has a
message of the command. -/
def failureOf : LoadFault → Failure
  | .settings fault => .failed fault.message (trail fault)
  | fault => .unexpected (trail fault)

/-- Whatever a file holds, a command either has the settings in it or fails with a fault of the
settings, unless the content is no text, or a text that writes a number that is too large, describes
a node without a value, or leads further down than there is room for. -/
theorem run_load_of_read {w : World} {p : Path} {content : List UInt8}
    (h : w.files.read w.directory p = .ok content) (s : Session) :
    Settings.Loads w.room content (Settings.load w.room w.files w.directory p) ∧
      (w.load p).run.run s =
        ((Settings.load w.room w.files w.directory p).mapError failureOf, s) := by
  have hload : Settings.load w.room w.files w.directory p =
      Settings.ofContent w.room p content := by
    rw [Settings.load, h]
  refine ⟨hload ▸ Settings.loads_ofContent w.room p content, ?_⟩
  rw [World.load]
  cases Settings.load w.room w.files w.directory p with
  | ok settings => rfl
  | error fault => cases fault <;> rfl

/-- A directory with settings in which a release ends on a day that does not exist. -/
def datedDirectory : World where
  files := ⟨[(["w"], .directory),
    (["w", "cssgps.yml"],
      .file (Utf8.ofString "releases:\n- \x7bname: r, expiry: 2025-02-30\x7d\n"))]⟩
  surroundings := { directory := .ofText "/w" }
  today := ⟨2024, 5, 1⟩
  now := 0
  room := machineRoom

theorem load_datedDirectory :
    Settings.load datedDirectory.room datedDirectory.files datedDirectory.directory
      (.ofText "cssgps.yml") = .error (.scalar (.date .day)) := by
  have hfault : (match Settings.load datedDirectory.room datedDirectory.files
      datedDirectory.directory (.ofText "cssgps.yml") with
    | .error fault => some fault
    | .ok _ => none) = some (.scalar (.date .day)) := by decide +kernel
  split at hfault
  · next hload => rw [hload, Option.some.inj hfault]
  · cases hfault

theorem run_load_of_read_impossibleDay :
    ∃ content, datedDirectory.files.read datedDirectory.directory (.ofText "cssgps.yml") =
        .ok content ∧
      Settings.Loads datedDirectory.room content (.error (.scalar (.date .day))) ∧
      ((datedDirectory.load (.ofText "cssgps.yml")).run.run (datedDirectory.start 0 false)).1 =
        .error (.unexpected [scalarProblem (.date .day)]) := by
  refine ⟨_, rfl, ?_⟩
  obtain ⟨hloads, hrun⟩ := run_load_of_read (w := datedDirectory) (p := .ofText "cssgps.yml")
    rfl (datedDirectory.start 0 false)
  rw [load_datedDirectory] at hloads hrun
  exact ⟨hloads, congrArg Prod.fst hrun⟩

/-- Bytes that are no text keep settings from being loaded, and are not reported as a fault of the
settings. -/
theorem not_reported_of_byte :
    ¬∃ room, ∀ path content, (∃ s, Settings.ofContent room path content = .ok s) ∨
      ∃ fault, Settings.ofContent room path content = .error (.settings fault) := by
  rintro ⟨room, h⟩
  have hload : Settings.ofContent room (.ofText "cssgps.yml") [0xFF] =
      .error (.undecodable [0xFF] ⟨0, 0xFF, 0, .start⟩) := by
    rw [Settings.ofContent, Utf8.decode, Utf8.decodeFrom]
    rfl
  obtain ⟨s, hs⟩ | ⟨fault, hfault⟩ := h (.ofText "cssgps.yml") [0xFF]
  · cases hload.symm.trans hs
  · cases hload.symm.trans hfault

end CommandLine
end MarkupNaming
