import MarkupNaming.Diagnostics.Problem
import MarkupNaming.Generation.Request
import MarkupNaming.Position
import MarkupNaming.Settings.File

/-!
# Trails of faults

Every fault as a problem, followed by the problems that led to it. The kinds of problems and
their words are what a user sees.
-/
namespace MarkupNaming.Diagnostics
open Text

/-- Faults that can be shown: a fault as a problem, and what led to it. -/
class Traced (ε : Type) where
  trail : ε → List Problem

export Traced (trail)

/-- A problem of a kind with a message. -/
def problem (kind message : Text) : Problem := Problem.ofKind kind (some message)

/-- The kind of problem that a reason is. -/
def reasonKind : FileReason → Text
  | .missing => "FileNotFoundError"
  | .occupied => "FileExistsError"
  | .notDirectory => "NotADirectoryError"
  | .isDirectory => "IsADirectoryError"
  | .tooLong => "OSError"
  | .nulInFile | .nulInDirectory | .nulInLookup => "ValueError"
  | .unencodable _ => "UnicodeEncodeError"

/-- The problem of a text that has no bytes. `hint` follows the reason. -/
def encodingProblem (f : Utf8.Unencodable) (hint : Text := []) : Problem :=
  { problem "UnicodeEncodeError" (f.message ++ hint) with
    literal := "UnicodeEncodeError('utf-8', " ++ quoted f.text ++ ", " ++ ofNat f.offset ++ ", "
      ++ ofNat (f.offset + f.others + 1) ++ ", " ++ quoted (Utf8.Unencodable.reason ++ hint)
      ++ [Code.char ')'] }

instance : Traced Utf8.Unencodable where
  trail f := [encodingProblem f]

/-- The problem of a path that cannot be used. -/
def fileProblem (f : FileFault) : Problem :=
  let made := problem (reasonKind f.reason) f.message
  match f.reason with
  | .unencodable fault => encodingProblem fault
  | reason =>
    match reason.number? with
    | some number =>
      { made with
        literal := made.kind ++ .char '(' :: ofNat number ++ ", " ++ quoted reason.wording ++
          [Code.char ')'] }
    | none => made

instance : Traced FileFault where
  trail f := [fileProblem f]

instance : Traced WriteFault where
  trail
    | .path f => trail f
    | .content f => trail f

instance : Traced Naming.UnknownSegment where
  trail f := [problem "UnknownOptionError" f.message,
    { problem "KeyError" f.id with message := quoted f.id }]

instance : Traced Naming.RuleFault where
  trail
    | .unknownSegment f => trail f
    | f => [problem "UnknownRuleError" f.message]

instance : Traced Naming.ContextFault where
  trail
    | .home .unknown => [problem "RuntimeError" Path.HomeFault.unknown.message]
    | .home (.unencodable f) => trail f
    | f => [problem "ValueError" f.message]

/-- The problem of bytes that encode no text. -/
def decodingProblem (content : List UInt8) (f : Utf8.Fault) : Problem :=
  { problem "UnicodeDecodeError" f.message with
    literal := "UnicodeDecodeError('utf-8', " ++ quotedBytes content ++ ", " ++ ofNat f.offset
      ++ ", " ++ ofNat (f.offset + f.others + 1) ++ ", " ++ quoted f.reason.message ++
        [Code.char ')'] }

instance : Traced Generation.DocumentFault where
  trail
    | .undecodable content f => [decodingProblem content f]
    | .path f => trail f
    | .unreadable f =>
      [problem "CssGpsError" (Generation.DocumentFault.unreadable f).message, fileProblem f]

instance : Traced Generation.Fault where
  trail
    | .rule f => trail f
    | .document f => trail f
    | .context f => trail f
    | .encoding f _ => trail f

instance : Traced PositionFault where
  trail f := [problem "PositionError" f.message]

instance : Traced CursorFault where
  trail
    | .outside f => trail f
    | f => [problem "BadParameter" f.message]

/-- How many settings are invalid, as the check that found them says it. -/
def invalidCount (count : Nat) : Text :=
  ofNat count ++ (if count = 1 then " validation error" else " validation errors" : String) ++
    " for GeneratorSettings"

/-- The kind of problem that is found at a stage of reading YAML. -/
def stageKind : Yaml.Stage → Text
  | .characters => "ReaderError"
  | .tokens => "ScannerError"
  | .grammar => "ParserError"
  | .references => "ComposerError"
  | .values => "ConstructorError"

/-- The problem behind a broken rule of YAML: that of bytes which cannot be read. -/
def bytesProblem? : Yaml.SyntaxFault → Option Problem
  | .broken (.undecodable reason) .. => some (problem "UnicodeDecodeError" reason)
  | .broken (.notAscii reason) .. => some (problem "UnicodeEncodeError" reason)
  | .broken (.notBase64 reason) .. => some (problem "Error" reason)
  | _ => none

instance : Traced SettingsFault where
  trail f := problem "ConfigurationError" f.message ::
    match f with
    | .faulty count => [problem "ValidationError" (invalidCount count)]
    | .unreadable fault => [fileProblem fault]
    | .malformed _ source reason =>
      problem (stageKind reason.stage) (reason.message source) :: (bytesProblem? reason).toList
    | _ => []

/-- The kind of problem that a scalar without a value is. -/
def scalarKind : Yaml.ScalarFault → Text
  | .emptyNumber => "IndexError"
  | .truth _ => "KeyError"
  | .timestamp => "AttributeError"
  | .timestampMapping => "TypeError"
  | .largeCharacter | .largeInteger => "OverflowError"
  | _ => "ValueError"

/-- The problem of a scalar without a value. A word is shown as it is written in a program. -/
def scalarProblem (f : Yaml.ScalarFault) : Problem :=
  match f with
  | .truth word => { problem (scalarKind f) word with message := f.message }
  | _ => problem (scalarKind f) f.message

instance : Traced LoadFault where
  trail
    | .settings f => trail f
    | .path f => trail f
    | .undecodable content f => [decodingProblem content f]
    | .scalar f => [scalarProblem f]
    | .tooDeep => [problem "RecursionError" Yaml.tooDeepMessage]

end MarkupNaming.Diagnostics
