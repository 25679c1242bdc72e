import MarkupNaming.Files.Tree
import MarkupNaming.Settings.Written
import MarkupNaming.Yaml.Reading
import MarkupNaming.Text.Lines

/-!
# Settings files

Where a workspace keeps its settings, and how they are loaded and saved. Of the names that a
settings file can have, the first one that is there counts.
-/
namespace MarkupNaming
open Text

/-- Why a settings file cannot be loaded. -/
inductive LoadFault
  | settings (fault : SettingsFault)
  /-- A path that can name no file. -/
  | path (fault : FileFault)
  | undecodable (content : List UInt8) (fault : Utf8.Fault)
  /-- A scalar that denotes no value of its kind. -/
  | scalar (fault : Yaml.ScalarFault)
  /-- Collections that are nested, or mappings that are merged or stand for each other, too deep. -/
  | tooDeep
deriving DecidableEq, Repr

namespace LoadFault

def message : LoadFault → Text
  | settings fault => fault.message
  | path fault => fault.message
  | undecodable _ fault => fault.message
  | scalar fault => fault.message
  | tooDeep => Yaml.tooDeepMessage

end LoadFault

namespace Settings

/-- The names that a settings file can have, in the order in which they are tried. -/
def fileNames : List Text := ["cssgps.yml", "cssgps.yaml", ".cssgps.yml", ".cssgps.yaml"]

/-- The settings file of a workspace, if it has one. -/
def discover (tree : FileTree) (directory workspace : Path) : Except FileFault (Option Path) :=
  (fileNames.map fun name => workspace ++ Path.ofText name).findM? (tree.isFile directory)

/-- The settings that the content of a file describes. -/
def ofContent (room : Yaml.Room) (path : Path) (content : List UInt8) : Except LoadFault Settings :=
  match Utf8.decode content with
  | .error fault => .error (.undecodable content fault)
  | .ok t =>
    let source := normalizeBreaks t
    match Yaml.read room source with
    | .error (.syntaxFault fault) => .error (.settings (.malformed path.text source fault))
    | .error (.scalar fault) => .error (.scalar fault)
    | .error .tooDeep => .error .tooDeep
    | .ok v => (ofValue v).mapError .settings

/-- The settings in a file. -/
def load (room : Yaml.Room) (tree : FileTree) (directory path : Path) : Except LoadFault Settings :=
  match tree.read directory path with
  | .error fault =>
    if fault.isReported then .error (.settings (.unreadable fault)) else .error (.path fault)
  | .ok content => ofContent room path content

/-- The tree with settings saved in a file, together with the directories above it. Those are
made before the file is written. -/
def save (s : Settings) (tree : FileTree) (directory path : Path) : Except Unfinished FileTree :=
  match tree.makeDirectories directory path.parent with
  | .error unfinished => .error unfinished
  | .ok made => made.write directory path s.written

theorem save_eq_ok_iff {s : Settings} {tree saved : FileTree} {directory path : Path} :
    s.save tree directory path = .ok saved ↔
      ∃ made, tree.makeDirectories directory path.parent = .ok made ∧
        made.write directory path s.written = .ok saved := by
  cases hmake : tree.makeDirectories directory path.parent with
  | error unfinished => simp [save, hmake]
  | ok made => simp [save, hmake]

theorem save_eq_error_iff {s : Settings} {tree : FileTree} {directory path : Path}
    {unfinished : Unfinished} :
    s.save tree directory path = .error unfinished ↔
      tree.makeDirectories directory path.parent = .error unfinished ∨
      ∃ made, tree.makeDirectories directory path.parent = .ok made ∧
        made.write directory path s.written = .error unfinished := by
  cases hmake : tree.makeDirectories directory path.parent with
  | error early => simp [save, hmake]
  | ok made => simp [save, hmake]

end Settings
end MarkupNaming
