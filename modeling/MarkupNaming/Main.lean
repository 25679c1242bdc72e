import MarkupNaming.CommandLine.Run
import Std.Time.DateTime.Timestamp

/-!
# The program

Runs a command on the files of the machine. Those that the arguments can name are read before,
and those that the command changes are written after it.
-/
namespace MarkupNaming.CommandLine

/-- The texts in an argument that can name a file: the argument itself, what follows an equals
sign, and what follows a letter behind a dash. -/
def namesIn (arg : Text) : List Text :=
  let value := arg.drop ((arg.takeWhile (· != .char '=')).length + 1)
  let tails :=
    if arg.head? = some (.char '-') then (List.range arg.length).map fun i : Nat => arg.drop i
    else []
  arg :: value :: tails

/-- The paths that arguments can lead to. -/
def reachable (directory : Path) (args : List Text) : List Path :=
  let named := directory :: (args.flatMap namesIn).map (Path.resolve directory)
  named.flatMap fun p =>
    let above := (List.range (p.components.length + 1)).map fun i : Nat =>
      (⟨.single, p.components.take i⟩ : Path)
    above ++ Settings.fileNames.map fun name => p ++ Path.ofText name

/-- The string of a text. The machine takes and hands over no lone surrogates. -/
def string (t : Text) : String :=
  String.ofList <| t.filterMap fun
    | .char c => some c
    | .surrogate _ => none

/-- A tree with what stands at a path of the machine. -/
def snapshot (tree : FileTree) (p : Path) : IO FileTree := do
  let .ok names := p.names | return tree
  if names.isEmpty then return tree
  match ← (IO.FS.readBinFile (string p.text)).toBaseIO with
  | .ok content => return tree.set names (.file content.toList)
  | .error (.inappropriateType ..) => return tree.set names .directory
  | .error _ => return tree

/-- Makes the directories and writes the files of a tree that another one does not have. -/
def store (before after : FileTree) : IO Unit := do
  for (place, entry) in after.entries do
    if before.entryAt? place != some entry then
      let .ok components := place.mapM Utf8.decode | continue
      let p : Path := ⟨.single, components⟩
      match entry with
      | .directory => IO.FS.createDirAll (string p.text)
      | .file content =>
        IO.FS.createDirAll (string p.parent.text)
        IO.FS.writeBinFile (string p.text) ⟨content.toArray⟩

/-- Runs a command and returns its exit code. -/
def runOnMachine (args : List String) : IO UInt32 := do
  let args := args.map fun arg : String => (arg : Text)
  let directory := Path.ofText (toString (← IO.currentDir))
  let homes := match ← IO.getEnv "HOME" with
    | some home => [([], Path.ofText home)]
    | none => []
  let files ← (reachable directory args).foldlM snapshot {}
  let now := (← Std.Time.Timestamp.now).toMillisecondsSinceUnixEpoch.val
  let e := run
    { files
      surroundings := { directory, homes }
      today := Date.ofSeconds (now / 1000).toNat
      now
      room := machineRoom } args
  store files e.files
  IO.print (string e.output)
  IO.eprint (string (Text.spelled e.shown))
  if e.exitCode = 2 then
    IO.eprint (string (usage ++ "Error: " ++ e.misuse.getD "Invalid arguments." ++
      [Code.char '\n']))
  return e.exitCode.toUInt32

end MarkupNaming.CommandLine

def main (args : List String) : IO UInt32 := MarkupNaming.CommandLine.runOnMachine args
