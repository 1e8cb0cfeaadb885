import Volley.Check
import Volley.Http.Transport
import Volley.Run.Lifecycle

/-!
# Iteration bodies

A body is what a scenario does in one iteration. It is a transition system: it is told what
happened, in the form of a cue, and answers with its next move. Everything a body can do to the run
is a move, and everything it can learn is a cue; how its states look is its own business. A body
need not ever finish.

## Main definitions

- `Cue`, `Move`, `Note`: what a body learns, does and writes down.
- `Body`: the transition systems.
-/

namespace Volley

/-- What a body is told. -/
inductive Cue where
  | began
  | rested
  | answered (response : Http.Response)
  | checked (passed : Bool)
  /-- The run was asked to stop and is in this state now. -/
  | stopped (state : Lifecycle)
  /-- The state of the run, its active users and its claimed iterations. -/
  | looked (state : Lifecycle) (active claimed : Nat)
  | signalled (handled : Bool)
  /-- The move failed, or the body was cancelled while it waited. -/
  | faulted (fault : Fault)

/-- What a body does next. -/
inductive Move (τ : Type) where
  | finish
  | fail (fault : Fault)
  | get (path : String) (headers : Headers) (name : Option String)
  | check (subject : Subject) (checks : Assoc String (Predicate Subject))
  | sleep (time : τ)
  | hang
  | stop
  | look
  | signal (name : String)

/-- What a body may write down about an iteration. -/
inductive Note where
  | began (iteration : Int)
  | ended
  | raised (name : String)
  | cancelled
  | woke
  | cancelSeen
  | caught (name : String)
  | status (code : Int)
  | checked (passed : Bool)
  | stopped (state : Lifecycle)
  | signalled (handled : Bool)
  | looked (state : Lifecycle) (active claimed : Nat)
  deriving DecidableEq, Repr

/-- The answer of a body to a cue: notes, a move and its next state. -/
structure Answer (τ β : Type) where
  notes : List Note := []
  move : Move τ
  state : β

/-- A body with states `β`. -/
structure Body (τ β : Type) where
  /-- The state in which a virtual user starts an iteration. -/
  start : (vu iteration : Int) → β
  /-- The answer to a cue. -/
  respond : β → Cue → Answer τ β

end Volley
