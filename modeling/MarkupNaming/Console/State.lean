import MarkupNaming.Console.Message
import MarkupNaming.Diagnostics.Notice

/-!
# Console state

How verbose a console is, and the events that it has been told of. Events are kept until they
are taken.
-/
namespace MarkupNaming.Console
open Text Diagnostics Generation

/-- The state of a console. -/
structure State where
  verbosity : Nat := 0
  showsTracebacks : Bool := false
  events : List (Text × Payload) := []

namespace State
variable (s : State)

/-- The state with what is given set anew. A negative verbosity counts as none. -/
def update (verbosity : Option Int) (showsTracebacks : Option Bool) : State :=
  { s with
    verbosity := (verbosity.map Int.toNat).getD s.verbosity
    showsTracebacks := showsTracebacks.getD s.showsTracebacks }

/-- The events of a name, and the state without them. -/
def take (name : Text) : List Payload × State :=
  ((s.events.filter (·.1 == name)).map (·.2),
    { s with events := s.events.filter (·.1 != name) })

/-- What is shown for information. -/
def inform (message : Text) : Text := if 1 ≤ s.verbosity then display message else []

/-- What is shown for a notice, and the state after it. -/
def receive : Notice → Text × State
  | .warning message problem =>
    (messageText s.verbosity .warning message (problem.getD []), s)
  | .error message problem => (messageText s.verbosity .error message (problem.getD []), s)
  | .event name payload =>
    let shown := match eventMessage? name payload with
      | none => []
      | some message =>
        if name = Event.releaseExpiredName then messageText s.verbosity .warning message []
        else s.inform message
    (shown, { s with events := s.events ++ [(name, payload)] })

/-- What is shown for a failure. -/
def showFailure (message : Text) (problem : Graph) : Text :=
  messageText s.verbosity .error (failureMessage message problem) problem

end State
end MarkupNaming.Console
