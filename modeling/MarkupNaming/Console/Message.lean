import MarkupNaming.Console.Display
import MarkupNaming.Diagnostics.Problem

/-!
# Messages

Warnings and errors as a console shows them. The more verbose a console is, the more it tells
about the problem behind a message: its own words and its kind, then its causes, and at last the
problem as a program writes it.
-/
namespace MarkupNaming.Console
open Text Diagnostics

/-- How grave a message is. -/
inductive Level
  | warning
  | error
deriving DecidableEq, Repr

/-- The word in front of a message. -/
def Level.text : Level → Text
  | .warning => "warning"
  | .error => "error"

/-- The words of a problem, unless the message has them already. -/
def detail (message : Text) (p : Problem) : List Text :=
  let words := trim p.message
  if words.isEmpty || message.contains words then [] else [words]

/-- The causes of the problem that stands first. -/
def causeLines (g : Graph) : List Text :=
  match g.causes 0 with
  | [] => []
  | causes => "caused by:" :: causes.map fun p => "  " ++ p.kind ++ ": " ++ p.message

/-- What is told about the problem behind a message. -/
def explanation (verbosity : Nat) (message : Text) : Graph → List Text
  | [] => []
  | g@(first :: _) =>
    if verbosity = 0 then []
    else
      detail message first.problem ++ ("type: " ++ first.problem.kind) ::
        ((if 2 ≤ verbosity then causeLines g else []) ++
          (if 3 ≤ verbosity then ["repr: " ++ first.problem.literal] else []))

/-- A message as it is shown, with the problem behind it if there is one. -/
def messageText (verbosity : Nat) (level : Level) (message : Text) (problem : Graph) : Text :=
  display (join ['\n'] ((level.text ++ ": " ++ message) :: explanation verbosity message problem))

/-- The message of a failure, with the innermost cause behind it unless it says so itself. -/
def failureMessage (message : Text) (problem : Graph) : Text :=
  match problem.hint? 0 with
  | none => message
  | some hint => if message.contains hint then message else message ++ " (" ++ hint ++ ")"

end MarkupNaming.Console
