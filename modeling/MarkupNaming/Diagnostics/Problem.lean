import MarkupNaming.Text.Lines
import MarkupNaming.Text.Quoted

/-!
# Problems

Problems and what led to them. A problem may have a cause and a context; the cause goes first
when a trail is followed. Problems may refer to each other in circles, and a trail visits none of
them twice.
-/
namespace MarkupNaming.Diagnostics
open Text

/-- A problem as it is shown. -/
structure Problem where
  /-- The name of its kind. -/
  kind : Text
  message : Text
  /-- The form in which a program writes it. -/
  literal : Text
deriving DecidableEq, Repr, Inhabited

namespace Problem

/-- A problem of a kind with an optional message. -/
def ofKind (kind : Text) (message : Option Text) : Problem where
  kind := kind
  message := message.getD []
  literal := kind ++ .char '(' :: (message.map quoted).getD [] ++ [Code.char ')']

/-- The first line of the message, trimmed. -/
def headline (p : Problem) : Text := trim (firstLine (trim p.message))

end Problem

/-- A problem with the places of its cause and its context. -/
structure Node where
  problem : Problem
  cause : Option Nat := none
  context : Option Nat := none
deriving DecidableEq, Repr, Inhabited

/-- The place that a trail goes to next. -/
def Node.next (n : Node) : Option Nat := n.cause.or n.context

/-- Problems that refer to each other by their places. -/
abbrev Graph := List Node

namespace Graph

/-- The problems on the trail from `place`, apart from the places in `visited`. Each step takes
a new place, so a trail has at most as many steps as the graph has places. -/
def follow (g : Graph) (visited : List Nat) (place : Option Nat) : Nat → List Problem
  | 0 => []
  | steps + 1 =>
    match place with
    | none => []
    | some i =>
      if i ∈ visited then []
      else
        match g[i]? with
        | none => []
        | some node => node.problem :: follow g (i :: visited) node.next steps

/-- The problems on the trail from a place. -/
def trail (g : Graph) (place : Nat) : List Problem := g.follow [] (some place) g.length

/-- The problems that led to the one at a place. A circle may lead back to it. -/
def causes (g : Graph) (place : Nat) : List Problem :=
  g.follow [] (g[place]?.bind Node.next) g.length

/-- The headlines on the trail from a place, without empty ones. -/
def messages (g : Graph) (place : Nat) : List Text :=
  ((g.trail place).map Problem.headline).filter (!·.isEmpty)

/-- The headline of the problem farthest from a place, if any has one. -/
def hint? (g : Graph) (place : Nat) : Option Text := (g.messages place).getLast?

/-- Problems each of which is caused by the next one. -/
def ofChain (problems : List Problem) : Graph :=
  problems.zipIdx.map fun (p, i) =>
    { problem := p, cause := if i + 1 < problems.length then some (i + 1) else none }

end Graph
end MarkupNaming.Diagnostics
