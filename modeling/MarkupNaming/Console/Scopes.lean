import MarkupNaming.Console.State

/-!
# Scopes

Where the state of a console is kept. Scopes lie within each other, and each may hold a state.
The state that counts is the one of the innermost scope that has one; outside of every scope it
is the state that was used last.
-/
namespace MarkupNaming.Console

/-- Where a state is kept: in a scope, counted from the innermost one, or outside of them. -/
inductive Holder
  | scope (index : Nat)
  | outside
deriving DecidableEq, Repr

/-- Scopes from the innermost one outward, with their states. -/
structure Scopes where
  states : List (Option State)
  outside : Option State := none
  /-- Where the state that was used last is kept. -/
  recent : Option Holder := none

namespace Scopes
variable (s : Scopes)

/-- The state that a holder keeps. -/
def state? : Holder → Option State
  | .scope i => (s.states[i]?).join
  | .outside => s.outside

/-- The scopes with a state put into a holder. -/
def setState (state : State) : Holder → Scopes
  | .scope i => { s with states := s.states.set i (some state) }
  | .outside => { s with outside := some state }

/-- The innermost scope with a state. -/
def innermost? : Option Nat := s.states.findIdx? Option.isSome

/-- The holder of the state that counts outside of the scopes; a new state is made if asked for. -/
def findOutside (create : Bool) : Option (Holder × Scopes) :=
  match s.recent with
  | some holder => some (holder, s)
  | none =>
    if create then some (.outside, { s with outside := some {}, recent := some .outside })
    else none

/-- The holder of the state that counts, `within` the scopes or outside of them. A new state is
made if asked for, in the innermost scope. -/
def find (within create : Bool) : Option (Holder × Scopes) :=
  if within = true ∧ s.states ≠ [] then
    match s.innermost? with
    | some i => some (.scope i, { s with recent := some (.scope i) })
    | none =>
      if create then
        some (.scope 0, { s.setState {} (.scope 0) with recent := some (.scope 0) })
      else s.findOutside create
  else s.findOutside create

/-- Whether tracebacks are shown, and the scopes after the state was used. -/
def showsTracebacks (within : Bool) : Bool × Scopes :=
  match s.find within false with
  | none => (false, s)
  | some (holder, s') => (((s'.state? holder).map (·.showsTracebacks)).getD false, s')

end Scopes
end MarkupNaming.Console
