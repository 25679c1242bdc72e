import MarkupNaming.Console.State
import MarkupNaming.Console.Styled
import MarkupNaming.Diagnostics.Trail

/-!
# Actions

The parts of commands. An action either has a result or fails, and on the way it tells a console
what happens and changes files. What it has shown and changed before it fails stays so. Faults
that a command expects are failures with a message of their own.
-/
namespace MarkupNaming.CommandLine
open Text Console Diagnostics

/-- Why a command has no result. -/
inductive Failure
  /-- A command line that asks for nothing that can be done. -/
  | misuse (message : Option Text)
  /-- A failure with its message, and what led to it. -/
  | failed (message : Text) (trail : List Problem)
  /-- A fault that the command does not expect. -/
  | unexpected (trail : List Problem)

/-- A console and what it has shown beside the result, and the files as they have become. -/
structure Session where
  console : State := {}
  shown : Text := []
  files : FileTree

/-- A part of a command. -/
abbrev Action := ExceptT Failure (StateM Session)

namespace Action

/-- Ends a command with a failure. -/
def fail {α : Type} (message : Text) (trail : List Problem := []) : Action α :=
  throw (.failed message trail)

/-- Ends a command with a failure unless a condition holds. -/
def demand (condition : Prop) [Decidable condition] (failure : Failure) : Action Unit :=
  if condition then pure () else throw failure

/-- A result, or the failure that is expected of a command. -/
def expect {ε α : Type} [Traced ε] : Except ε α → Action α
  | .ok a => pure a
  | .error fault =>
    match trail fault with
    | [] => fail []
    | first :: rest => fail first.message (first :: rest)

/-- A result, or a fault that a command does not expect. -/
def require {ε α : Type} [Traced ε] : Except ε α → Action α
  | .ok a => pure a
  | .error fault => throw (.unexpected (trail fault))

/-- Shows a text beside the result. -/
def emit (t : Text) : Action Unit := modify fun s => { s with shown := s.shown ++ t }

/-- Tells the console of something. -/
def tell (n : Notice) : Action Unit := modify fun s =>
  let (shown, console) := s.console.receive n
  { s with console, shown := s.shown ++ shown }

/-- Shows information on a console that is not quiet. -/
def inform (message : Text) : Action Unit := do emit ((← get).console.inform message)

/-- Leaves the files in another state. -/
def leave (files : FileTree) : Action Unit := modify fun s => { s with files }

end Action

instance : Traced StyleFault where
  trail
    | .unmatched body offset =>
      [problem "MarkupError" (StyleFault.unmatched body offset).message,
        { problem "KeyError" [] with
          message := quoted (styleName (trim (tagName body |>.drop 1))) }]
    | .nothingOpen offset =>
      [problem "MarkupError" (StyleFault.nothingOpen offset).message,
        problem "IndexError" "pop from empty list"]

end MarkupNaming.CommandLine
