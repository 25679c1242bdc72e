import MarkupNaming.Diagnostics.Problem
import MarkupNaming.Generation.Event

/-!
# Notices

What a host is told while it runs, and the log that keeps it. An event with a message is logged
as information, any other event for debugging, with its whole payload.
-/
namespace MarkupNaming.Diagnostics
open Text Generation

/-- Something that a host is told. The problem behind a warning or an error stands first in its
graph. -/
inductive Notice
  | warning (message : Text) (problem : Option Graph)
  | error (message : Text) (problem : Option Graph)
  | event (name : Text) (payload : Payload)

/-- How important an entry of a log is. -/
inductive Severity
  | debug
  | info
  | warning
  | error
deriving DecidableEq, Repr

namespace Severity

def name : Severity → Text
  | debug => "DEBUG"
  | info => "INFO"
  | warning => "WARNING"
  | error => "ERROR"

end Severity

/-- An entry of a log. -/
structure LogEntry where
  severity : Severity
  message : Text
  /-- The kind of the problem behind the entry. -/
  problemKind : Option Text := none
deriving DecidableEq, Repr

/-- The kind of the problem that stands first. -/
def Graph.kind? (g : Graph) : Option Text := g.head?.map (·.problem.kind)

/-- The entry of a notice. -/
def LogEntry.ofNotice : Notice → LogEntry
  | .warning message problem => ⟨.warning, message, problem.bind Graph.kind?⟩
  | .error message problem => ⟨.error, message, problem.bind Graph.kind?⟩
  | .event name payload =>
    match eventMessage? name payload with
    | some message => { severity := .info, message := message }
    | none =>
      let shown := Value.literal (.map (payload.map fun (key, v) => (.text key, v)))
      { severity := .debug, message := "diagnostic event " ++ name ++ ": " ++ shown }

/-- Where notices go: nowhere, or into a log. -/
inductive Recipient
  | nobody
  | log (debugEnabled : Bool)
deriving DecidableEq, Repr

namespace Recipient

/-- Whether details for debugging are wanted. -/
def debugEnabled : Recipient → Bool
  | nobody => false
  | log debugEnabled => debugEnabled

/-- What is kept of notices. -/
def entries (notices : List Notice) : Recipient → List LogEntry
  | nobody => []
  | log _ => notices.map LogEntry.ofNotice

end Recipient
end MarkupNaming.Diagnostics
