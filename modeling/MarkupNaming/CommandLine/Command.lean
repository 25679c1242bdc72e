import MarkupNaming.CommandLine.Argument
import MarkupNaming.Files.Tree
import MarkupNaming.Position
import MarkupNaming.Settings.Basic
import MarkupNaming.Text.Number

/-!
# Commands

What a user can ask for. Arguments denote a command only if every value is of its kind: numbers
within their bounds, and paths that lead to what is expected there.
-/
namespace MarkupNaming.CommandLine
open Text

/-- Where settings are looked for. -/
structure SettingsPlace where
  config : Option Path := none
  workspace : Option Path := none
deriving DecidableEq, Repr

/-- How a name is to be made. -/
structure NamingChoice where
  rule : Option Text := none
  segments : List Text := []
  separator : Text := defaultSeparator
  /-- Whether to record the path; the settings decide if it is open. -/
  marker : Option Bool := none
deriving DecidableEq, Repr

/-- A document, a cursor in it and how to name the element there. -/
structure Target where
  file : Path
  cursor : Cursor
  naming : NamingChoice
  place : SettingsPlace
deriving DecidableEq, Repr

/-- The commands. -/
inductive Command
  | generate (target : Target)
  | apply (target : Target) (inPlace : Bool) (output : Option Path)
  | ancestors (file : Path) (cursor : Cursor)
  | options (file : Option Path) (cursor : Cursor) (place : SettingsPlace)
  | listRules (place : SettingsPlace)
  | addRule (name : Text) (segments : List Text) (id : Option Text) (separator : Text)
      (place : SettingsPlace)
  | removeRule (id : Text) (place : SettingsPlace)
  | listReleases (place : SettingsPlace)
  | currentRelease (place : SettingsPlace)
  | addRelease (name expiry : Text) (place : SettingsPlace)
  | removeRelease (name : Text) (place : SettingsPlace)
deriving DecidableEq, Repr

/-- What a command line asks for. -/
inductive Request
  | help
  | version
  | run (verbosity : Nat) (showsTracebacks : Bool) (command : Command)
  /-- A command with a path that can name nothing. -/
  | refused (verbosity : Nat) (fault : FileFault)
deriving DecidableEq, Repr

/-- Why arguments denote no command. -/
inductive Refusal
  | misuse
  /-- A path that can name nothing. -/
  | path (fault : FileFault)

/-- The files that exist and the directory from which paths are followed. -/
structure Whereabouts where
  files : FileTree
  directory : Path

namespace Whereabouts
variable (w : Whereabouts)

/-- The paths that are looked up on the way through `components`, behind those that have been
passed. A `..` is not looked up: it takes back the component in front of it, and where a relative
path has none it stays. -/
def lookups (root : Root) : (passed components : List Text) → List Path
  | _, [] => []
  | passed, c :: rest =>
    if c = [.char '.', .char '.'] then
      if root = .relative ∧ passed.getLastD c = c then lookups root (passed ++ [c]) rest
      else lookups root passed.dropLast rest
    else ⟨root, passed ++ [c]⟩ :: lookups root (passed ++ [c]) rest

/-- Why a path cannot be looked up at all, if so. -/
def lookupFault? (p : Path) : Option FileFault :=
  match Utf8.encode .escape p.text with
  | .error fault => some ⟨.unencodable fault, p⟩
  | .ok _ => if .char '\x00' ∈ p.text then some ⟨.nulInLookup, p⟩ else none

/-- The path that a text writes, followed from the directory. -/
def resolve (t : Text) : Except Refusal Path :=
  let p := Path.ofText t
  match (lookups p.root [] p.components).findSome? lookupFault? with
  | some fault => .error (.path fault)
  | none => .ok (Path.resolve w.directory t)

/-- A path at which what stands there, if anything does, satisfies a condition. -/
def pathWhere (condition : Option Entry → Bool) (t : Text) : Except Refusal Path := do
  let p ← w.resolve t
  if condition (w.files.find? w.directory p) then return p else throw .misuse

/-- Whether a file stands at a place. -/
def isFile : Option Entry → Bool
  | some (.file _) => true
  | _ => false

/-- The path of a file that exists. -/
def existingFile (t : Text) : Except Refusal Path := w.pathWhere isFile t

/-- A path that is no directory. -/
def filePath (t : Text) : Except Refusal Path := w.pathWhere (· != some .directory) t

/-- A path that is no file. -/
def directoryPath (t : Text) : Except Refusal Path := w.pathWhere (!isFile ·) t

end Whereabouts

/-- A number that is not below a bound. -/
def numberFrom (least : Int) (t : Text) : Except Refusal Int :=
  match (writtenInteger? t).filter (least ≤ ·) with
  | some n => .ok n
  | none => .error .misuse

namespace Arguments
variable (a : Arguments) (w : Whereabouts)

/-- The value of an option that may be left out. -/
def optional {α : Type} (name : OptionName) (read : Text → Except Refusal α) :
    Except Refusal (Option α) :=
  (a.value? name).mapM read

/-- The offset that is given. -/
def offset : Except Refusal (Option Int) := a.optional .offset (numberFrom 0)

/-- The line that is given. -/
def line : Except Refusal (Option Int) := a.optional .line (numberFrom 1)

/-- The column that is given. -/
def column : Except Refusal (Option Int) := a.optional .column (numberFrom 1)

/-- The settings file that is given. -/
def config : Except Refusal (Option Path) := a.optional .config w.filePath

/-- The workspace that is given. -/
def workspace : Except Refusal (Option Path) := a.optional .workspace w.directoryPath

/-- The file that is given for a document. -/
def output : Except Refusal (Option Path) := a.optional .output w.filePath

/-- The values of options are of their kinds. The first option in order whose value is not is the
reason for a refusal. -/
def check : Except Refusal Unit :=
  a.options.forM fun given =>
    match given.name with
    | .offset => discard a.offset
    | .line => discard a.line
    | .column => discard a.column
    | .config => discard (a.config w)
    | .workspace => discard (a.workspace w)
    | .output => discard (a.output w)
    | _ => return

/-- The one word that is given. -/
def word : Except Refusal Text :=
  match a.words with
  | [word] => .ok word
  | _ => .error .misuse

/-- The file that is given by one word. It is looked for even if there are more words. -/
def file : Except Refusal Path := do
  let file ← w.existingFile (a.words.headD [])
  discard a.word
  return file

/-- The file that may be given by one word. -/
def file? : Except Refusal (Option Path) :=
  if a.words.isEmpty then .ok none else (a.file w).map some

/-- The cursor that options name. -/
def cursor : Except Refusal Cursor := do
  return { offset := ← a.offset, line := ← a.line, column := (← a.column).getD 1 }

/-- Where options say that settings are. -/
def place : Except Refusal SettingsPlace := do
  return { config := ← a.config w, workspace := ← a.workspace w }

/-- The separator that is given. -/
def separator : Text := (a.value? .separator).getD defaultSeparator

/-- The last of the two options that say whether to record the path. -/
def marker : Option Bool :=
  ((a.options.filter fun o => o.name == .marker || o.name == .noMarker).getLast?).map
    (·.name == .marker)

/-- How options say that a name is to be made. -/
def naming : NamingChoice where
  rule := a.value? .rule
  segments := a.values .segment
  separator := a.separator
  marker := a.marker

/-- The element that arguments name: one word for the file, and options. -/
def target : Except Refusal Target := do
  return { file := ← a.file w, cursor := ← a.cursor, naming := a.naming, place := ← a.place w }

end Arguments

open OptionName in
/-- The options of commands that name an element. -/
def targetOptions : List OptionName :=
  [help, offset, line, column, rule, segment, separator, marker, noMarker, config, workspace]

namespace Command
variable (w : Whereabouts) (args : List Text)

/-- What arguments ask for, where options may follow words: help, or a command. -/
def readWith (allowed : List OptionName) (command : Arguments → Except Refusal Command) :
    Except Refusal (Option Command) := do
  let some a := Arguments.read (.help :: allowed) true args | throw .misuse
  if a.has .help then return none
  a.check w
  return some (← command a)

/-- A command that has no words. -/
def readListing (command : SettingsPlace → Command) : Except Refusal (Option Command) :=
  readWith w args [.config, .workspace] fun a => do
    let [] := a.words | throw .misuse
    return command (← a.place w)

/-- A command that has one word. -/
def readNamed (command : Text → SettingsPlace → Command) : Except Refusal (Option Command) :=
  readWith w args [.config, .workspace] fun a => do
    return command (← a.word) (← a.place w)

/-- The commands on rules. -/
def readRules : List Text → Except Refusal (Option Command)
  | [] => throw .misuse
  | word :: args =>
    if word = ("list" : Text) then readListing w args .listRules
    else if word = ("remove" : Text) then readNamed w args .removeRule
    else if word = ("add" : Text) then
      readWith w args [.segment, .id, .separator, .config, .workspace] fun a => do
        if (a.values .segment).isEmpty then throw .misuse
        return .addRule (← a.word) (a.values .segment) (a.value? .id) a.separator (← a.place w)
    else throw .misuse

/-- The commands on releases. -/
def readReleases : List Text → Except Refusal (Option Command)
  | [] => throw .misuse
  | word :: args =>
    if word = ("list" : Text) then readListing w args .listReleases
    else if word = ("current" : Text) then readListing w args .currentRelease
    else if word = ("remove" : Text) then readNamed w args .removeRelease
    else if word = ("add" : Text) then
      readWith w args [.config, .workspace] fun a => do
        let [name, expiry] := a.words | throw .misuse
        return .addRelease name expiry (← a.place w)
    else throw .misuse

/-- The commands of a group, behind the options of the group. -/
def readGroup (commands : List Text → Except Refusal (Option Command)) :
    Except Refusal (Option Command) := do
  let some a := Arguments.read [.help] false args | throw .misuse
  if a.has .help then return none
  commands a.words

/-- A command, or none if help is asked for. -/
def read (word : Text) : Except Refusal (Option Command) :=
  if word = ("generate" : Text) then
    readWith w args targetOptions fun a => return .generate (← a.target w)
  else if word = ("apply" : Text) then
    readWith w args (.inPlace :: .output :: targetOptions) fun a =>
      return .apply (← a.target w) (a.has .inPlace) (← a.output w)
  else if word = ("ancestors" : Text) then
    readWith w args [.offset, .line, .column] fun a =>
      return .ancestors (← a.file w) (← a.cursor)
  else if word = ("options" : Text) then
    readWith w args [.offset, .line, .column, .config, .workspace] fun a =>
      return .options (← a.file? w) (← a.cursor) (← a.place w)
  else if word = ("rules" : Text) then readGroup args (readRules w)
  else if word = ("releases" : Text) then readGroup args (readReleases w)
  else throw .misuse

end Command

/-- What arguments ask for, none if they cannot be read. Of a request for help and one for the
version, the first one counts. -/
def Request.read (w : Whereabouts) (args : List Text) : Option Request := do
  let a ← Arguments.read [.help, .version, .verbose, .debug] false args
  match a.options.find? fun o => o.name == .help || o.name == .version with
  | some ⟨.version, _⟩ => return .version
  | some _ => return .help
  | none =>
    let word :: rest := a.words | none
    let verbosity := (a.values .verbose).length
    match Command.read w rest word with
    | .ok none => return .help
    | .ok (some command) => return .run verbosity (a.has .debug) command
    | .error (.path fault) => return .refused verbosity fault
    | .error .misuse => none

end MarkupNaming.CommandLine
