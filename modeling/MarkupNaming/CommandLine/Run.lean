import MarkupNaming.CommandLine.Action
import MarkupNaming.CommandLine.Command
import MarkupNaming.CommandLine.Listing
import MarkupNaming.Console.Escape
import MarkupNaming.Settings.CustomRules

/-!
# Running commands

What each command does to the files and what it prints. A command changes files at its end, when
nothing can fail any more but the change itself and the printing of what it says.
-/
namespace MarkupNaming.CommandLine
open Text Console Diagnostics Naming CommandLine.Action

/-- What a command depends on, apart from its arguments. -/
structure World where
  /-- The files as the command finds them. -/
  files : FileTree
  surroundings : Path.Surroundings
  today : Date
  /-- Milliseconds since the beginning of 1970. -/
  now : Int
  /-- How deep settings files may nest. -/
  room : Yaml.Room
  /-- What becomes of lone surrogates that are printed. -/
  stdout : Utf8.Handler := .strict

/-- How deep settings files may nest where the program runs. -/
def machineRoom : Yaml.Room where
  nesting := 489
  merging := 984
  following := 984
  enough := by decide

namespace World

/-- The directory in which the program runs. -/
def directory (w : World) : Path := w.surroundings.directory

end World

namespace World
variable (w : World)

/-- The directory that counts as the workspace. -/
def workspace (place : SettingsPlace) : Path := place.workspace.getD w.directory

/-- The settings in a file. A file with broken settings is a failure; one that is no text, or
has a scalar without a value, is not expected. -/
def load (p : Path) : Action Settings :=
  match Settings.load w.room w.files w.directory p with
  | .ok s => pure s
  | .error (.settings fault) => expect (.error fault)
  | .error fault => require (.error fault)

/-- The settings file that a workspace has. -/
def discovered (place : SettingsPlace) : Except FileFault (Option Path) :=
  Settings.discover w.files w.directory (w.workspace place)

/-- The settings that hold at a place: those of a file that is named, or of the file that the
workspace has, or the defaults. -/
def settings (place : SettingsPlace) : Action Settings :=
  match place.config with
  | some p => do
    if ← require (w.files.isFile w.directory p) then w.load p
    else
      let message := "Settings file '" ++ p.text ++ "' does not exist."
      fail message [problem "CssGpsError" message]
  | none => do
    match ← require (w.discovered place) with
    | none => pure .defaults
    | some p => do
      inform ("Using settings from " ++ p.text)
      w.load p

/-- The file in which settings are changed: the one that is named, or the one that the workspace
has, or else a new one. -/
def settingsFile (place : SettingsPlace) : Except FileFault Path :=
  match place.config with
  | some p => .ok p
  | none =>
    let newFile := w.workspace place ++ Path.ofText (Settings.fileNames.headD [])
    (w.discovered place).map (·.getD newFile)

/-- The settings in a file, the defaults if there is no file. -/
def existingSettings (p : Path) : Action Settings := do
  if ← require (w.files.isFile w.directory p) then w.load p else pure .defaults

/-- Saves settings in a file. What was made for it stays if that fails. -/
def save (s : Settings) (p : Path) : Action Unit :=
  match s.save w.files w.directory p with
  | .ok files => leave files
  | .error unfinished => do
    leave unfinished.left
    require (.error unfinished.fault)

/-- The document in a file. One that is no text is not expected. -/
def document (file : Path) : Action Text :=
  match Generation.readDocument w.files w.directory file with
  | .ok t => pure t
  | .error (.unreadable fault) => expect (.error (Generation.DocumentFault.unreadable fault))
  | .error fault => require (.error fault)

/-- The offset that a cursor names in a document. -/
def offsetIn (document : Text) (c : Cursor) : Action Int :=
  match c.resolve document with
  | .ok offset => pure offset
  | .error (.outside fault) => expect (.error fault)
  | .error fault => throw (.misuse (some fault.message))

/-- The message for a cursor that hits no element. -/
def noElement : Text := (Generation.Status.notFound.message?).getD []

/-- What is asked for with a target, given the settings, the document and the offset there. -/
def request (t : Target) (settings : Settings) (document : Text) (offset : Int) :
    Generation.Request where
  path := t.file.text
  offset
  document := .ok document
  workspace := some (w.workspace t.place).text
  ruleId := t.naming.rule
  optionIds := t.naming.segments
  separator := t.naming.separator
  settings
  emitMarker := t.naming.marker

/-- Tells of events. -/
def tellAll (events : List Generation.Event) : Action Unit := do
  for event in events do
    tell (.event event.name event.payload)

/-- The outcome of a request. A file for which it has no context is not expected, nor is a segment
that cannot be hashed. -/
def answer (request : Generation.Request) (applies : Bool) : Action Generation.Outcome :=
  let result := if applies then request.apply w.surroundings w.today
    else request.generate w.surroundings w.today
  match result with
  | .ok outcome => pure outcome
  | .error (.context fault) => require (.error fault)
  | .error (.encoding fault reported) => do
    tellAll reported
    require (.error fault)
  | .error fault => expect (.error fault)

/-- Tells of an outcome: its events, why it has no name if so, and the element on a console that
is not quiet. -/
def report (outcome : Generation.Outcome) : Action Unit := do
  tellAll outcome.events
  if let some message := outcome.status.message? then fail message
  if let some element := outcome.element then
    if 1 ≤ (← get).console.verbosity then
      emit (← require (outcomeListing outcome element).text)

/-- The outcome for an element, which has a name. -/
def outcome (t : Target) (applies : Bool) : Action Generation.Outcome := do
  let settings ← w.settings t.place
  let document ← w.document t.file
  let offset ← offsetIn document t.cursor
  let outcome ← w.answer (w.request t settings document offset) applies
  report outcome
  return outcome

/-- A text as a line of its own. -/
def line (t : Text) : Text := withoutEscapes t ++ [Code.char '\n']

/-- Prints the name for an element. -/
def generate (t : Target) : Action Text := do
  return line (← w.outcome t false).className

/-- Writes a document to a file. What becomes of the file before that fails stays so. Only faults
that the system reports are expected. -/
def writeDocument (document : Text) (p : Path) : Action Unit :=
  match w.files.write w.directory p document with
  | .ok files => leave files
  | .error unfinished => do
    leave unfinished.left
    match unfinished.fault with
    | .path fault =>
      if fault.isReported then
        let message := "Unable to write '" ++ p.text ++ "'."
        fail message [problem "CssGpsError" message, fileProblem fault]
      else require (.error fault)
    | .content fault => require (.error fault)

/-- Whether the edit of an outcome changes the tag. -/
def changes (outcome : Generation.Outcome) : Bool := (outcome.edit.map (·.changes)).getD true

/-- Warns of an element that has its name already. -/
def warn (outcome : Generation.Outcome) : Action Unit :=
  if changes outcome then pure ()
  else tell (.warning ("Element already carries class '" ++ outcome.className ++ "'.") none)

/-- Prints the new document of an outcome, or writes it to a file. A document that did not change
is not written over itself. -/
def deliver (outcome : Generation.Outcome) (file : Path) : Option Path → Action Text
  | none => return withoutEscapes outcome.updatedText
  | some p => do
    if p ≠ file ∨ changes outcome then w.writeDocument outcome.updatedText p
    return line outcome.className

/-- Gives an element its name, in its own file or for another output. -/
def apply (t : Target) (inPlace : Bool) (output : Option Path) : Action Text := do
  demand (inPlace = false ∨ output = none)
    (.misuse (some "Use either --in-place or --output, not both."))
  let outcome ← w.outcome t true
  warn outcome
  w.deliver outcome t.file (if inPlace then some t.file else output)

/-- Prints the tags around an element. -/
def ancestors (file : Path) (c : Cursor) : Action Text := do
  let document ← w.document file
  let offset ← offsetIn document c
  match Markup.locate? document offset with
  | none => fail noElement
  | some element =>
    return line (Markup.chainText (Markup.ancestors document element.start))

/-- Lists the kinds of segments, with their values for an element if a file is given. -/
def options (file : Option Path) (c : Cursor) (place : SettingsPlace) : Action Text := do
  match file with
  | none => require (segmentListing none).text
  | some file =>
    let settings ← w.settings place
    let document ← w.document file
    let offset ← offsetIn document c
    match Markup.locate? document offset settings.pathMarker.name.text with
    | none => fail noElement
    | some element =>
      let context ← require <| Context.ofFile w.surroundings file.text document element.start
        (some (w.workspace place).text)
      let values ← require <| Segment.all.mapM fun s =>
        (s.generate context settings w.today).map (s, ·)
      require (segmentListing (some values)).text

/-- Lists the preset rules and the rules of the settings. -/
def listRules (place : SettingsPlace) : Action Text := do
  let settings ← w.settings place
  let rules ← expect (Rule.available settings)
  require (ruleListing rules).text

/-- The identifier of a new rule: the one that is given, or else one made from the time. -/
def ruleId (given : Option Text) : Text :=
  (given.filter (!·.isEmpty)).getD ("rule_" ++ ofInt w.now)

/-- Adds a rule to the settings, or puts it in the place of the rule of its identifier. -/
def addRule (name : Text) (segments : List Text) (id : Option Text) (separator : Text)
    (place : SettingsPlace) : Action Text := do
  demand (trim name ≠ []) (.misuse (some "Rule name must not be empty."))
  let id := w.ruleId id
  demand (Rule.preset? id = none)
    (.misuse (some ("'" ++ id ++ "' is a preset rule and cannot be redefined.")))
  let p ← require (w.settingsFile place)
  let record : CustomRule := { id, name := trim name, options := segments, separator }
  let rule ← expect (Rule.ofCustom record)
  let settings ← w.existingSettings p
  w.save (settings.upsertRule record) p
  inform ("Saved settings to " ++ p.text)
  return line (rule.id ++ ": " ++ rule.pattern)

/-- Removes the rules of an identifier from the settings, which must have one. -/
def removeRule (id : Text) (place : SettingsPlace) : Action Text := do
  let p ← require (w.settingsFile place)
  let settings ← w.existingSettings p
  demand (settings.findRule? id ≠ none) (.failed ("No custom rule named '" ++ id ++ "'.") [])
  w.save (settings.removeRule id) p
  return line ("Removed " ++ id)

/-- Lists the releases, followed by a note if none applies. -/
def listReleases (place : SettingsPlace) : Action (List Text) := do
  let settings ← w.settings place
  let listing ← require (releaseListing settings.releases w.today).text
  let note := if (Release.active? settings.releases w.today).isSome then []
    else [display ("No active release; using default '" ++ settings.defaultRelease ++ "'.")]
  return listing :: note

/-- The label of the release that applies, or of the default if none does. -/
def currentLabel (settings : Settings) : Text :=
  let entry := Release.active? settings.releases w.today
  sanitize ((entry.map (·.name)).getD settings.defaultRelease)

/-- What is printed as the current release is what names are labelled with. -/
theorem currentLabel_eq_releaseLabel (settings : Settings) :
    w.currentLabel settings = releaseLabel settings w.today := by
  unfold currentLabel releaseLabel
  cases Release.active? settings.releases w.today <;> rfl

/-- Prints the label of the release that applies. -/
def currentRelease (place : SettingsPlace) : Action Text := do
  return line (w.currentLabel (← w.settings place))

/-- Adds a release to the settings. -/
def addRelease (name expiry : Text) (place : SettingsPlace) : Action Text := do
  demand (trim name ≠ []) (.misuse (some "Release name must not be empty."))
  let p ← require (w.settingsFile place)
  let settings ← w.existingSettings p
  let changed ← expect (settings.addRelease { name := trim name, expiry })
  w.save changed p
  return line ("Added " ++ trim name ++ " (expires " ++ expiry ++ [Code.char ')'])

/-- Removes the releases of a name from the settings, which must have one. -/
def removeRelease (name : Text) (place : SettingsPlace) : Action Text := do
  let p ← require (w.settingsFile place)
  let settings ← w.existingSettings p
  demand (∃ r ∈ settings.releases, r.name = name)
    (.failed ("No release named '" ++ name ++ "'.") [])
  w.save (settings.removeRelease name) p
  return line ("Removed " ++ name)

/-- The session in which a command begins. -/
def start (verbosity : Nat) (showsTracebacks : Bool) : Session :=
  { console := { verbosity, showsTracebacks }, files := w.files }

end World

/-- A text that a command prints. -/
structure Printout where
  text : Text
  /-- Whether a console lays the text out. -/
  isDrawn : Bool := false
deriving DecidableEq, Repr

namespace Printout

/-- A text that is printed as it is. -/
def plain (t : Text) : Printout := { text := t }

/-- A text that a console lays out. -/
def drawn (t : Text) : Printout := { text := t, isDrawn := true }

/-- What a console says of a text that it cannot print. -/
def hint : Text := "\n*** You may need to add PYTHONIOENCODING=utf-8 to your environment ***"

/-- Why a text cannot be printed, if so. -/
def problem? (stdout : Utf8.Handler) (p : Printout) : Option Problem :=
  match Utf8.encode stdout p.text with
  | .ok _ => none
  | .error fault => some (encodingProblem fault (if p.isDrawn then hint else []))

/-- What is printed of texts one after the other, and why it is not all of them, if so. -/
def printAll (stdout : Utf8.Handler) : List Printout → Text × Option Problem
  | [] => ([], none)
  | p :: rest =>
    match p.problem? stdout with
    | some problem => ([], some problem)
    | none => ((printAll stdout rest).map (p.text ++ ·) id)

end Printout

/-- Performs a command, with what it prints as the result. -/
def World.perform (w : World) : Command → Action (List Printout)
  | .generate t => return [.plain (← w.generate t)]
  | .apply t inPlace output => return [.plain (← w.apply t inPlace output)]
  | .ancestors file c => return [.plain (← w.ancestors file c)]
  | .options file c place => return [.drawn (← w.options file c place)]
  | .listRules place => return [.drawn (← w.listRules place)]
  | .addRule name segments id separator place =>
    return [.plain (← w.addRule name segments id separator place)]
  | .removeRule id place => return [.plain (← w.removeRule id place)]
  | .listReleases place => return (← w.listReleases place).map .drawn
  | .currentRelease place => return [.plain (← w.currentRelease place)]
  | .addRelease name expiry place => return [.plain (← w.addRelease name expiry place)]
  | .removeRelease name place => return [.plain (← w.removeRelease name place)]

/-- How a run of the program ends. -/
structure Ending where
  exitCode : Nat
  output : Text := []
  /-- What is shown beside the output. -/
  shown : Text := []
  /-- What is wrong with the command line, where the program itself can tell. -/
  misuse : Option Text := none
  files : FileTree

/-- The version of the program. -/
def version : Text := "0.1.0"

/-- How a command is called. -/
def usage : Text := "Usage: cssgps [OPTIONS] COMMAND [ARGS]...\n"

/-- How a run ends in which a command has failed. -/
def Failure.ending (verbosity : Nat) (session : Session) : Failure → Ending
  | .misuse message =>
    { exitCode := 2, shown := session.shown, misuse := message, files := session.files }
  | .failed message trail =>
    let message := failureMessage message (Graph.ofChain trail)
    { exitCode := 1
      shown := session.shown ++ messageText verbosity .error message (Graph.ofChain trail)
      files := session.files }
  | .unexpected trail =>
    let message := (trail.head?.map (·.message)).getD []
    { exitCode := 1
      shown := session.shown ++ messageText verbosity .error message (Graph.ofChain trail)
      files := session.files }

/-- How a run ends in which a command has been performed, once its texts are printed. -/
def Session.ending (verbosity : Nat) (session : Session) : Text × Option Problem → Ending
  | (output, none) => { exitCode := 0, output, shown := session.shown, files := session.files }
  | (output, some problem) =>
    { (Failure.unexpected [problem]).ending verbosity session with output }

/-- Runs the program. -/
def run (w : World) (args : List Text) : Ending :=
  match Request.read ⟨w.files, w.directory⟩ args with
  | none => { exitCode := 2, files := w.files }
  | some .help => { exitCode := 0, output := usage, files := w.files }
  | some .version =>
    { exitCode := 0, output := "cssgps " ++ version ++ [Code.char '\n'], files := w.files }
  | some (.refused verbosity fault) =>
    { exitCode := 1
      shown := messageText verbosity .error fault.message (Graph.ofChain (trail fault))
      files := w.files }
  | some (.run verbosity showsTracebacks command) =>
    match (w.perform command).run.run (w.start verbosity showsTracebacks) with
    | (.ok printouts, session) => session.ending verbosity (Printout.printAll w.stdout printouts)
    | (.error failure, session) => failure.ending verbosity session

end MarkupNaming.CommandLine
