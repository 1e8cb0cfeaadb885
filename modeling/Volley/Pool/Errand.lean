import Volley.Journal
import Volley.Pool.Warden

/-!
# Errands

Small pieces of work to try a shutdown on: an errand sleeps, or waits for the stop flag and then
sleeps, or fails. When it is cancelled it may take its time to clean up, and may then go on as if
nothing had happened. It notes when it is cancelled and when it ends.

## Main definitions

- `Errand`: the pieces of work.
- `Errand.shutDown`: runs errands, shuts them down, and tells how they stand when that is over.
-/

namespace Volley

open Pool

/-- What an errand does. -/
inductive Errand.Kind (τ : Type) where
  | sleep (time : τ)
  | awaitStop (time : τ)
  | fail (fault : Fault)

/-- An errand: what it does, how long it cleans up when it is cancelled, and whether it goes on
then. -/
structure Errand (τ : Type) where
  kind : Errand.Kind τ
  cleanup : Option τ := none
  swallows : Bool := false

namespace Errand

/-- What an errand notes. -/
inductive Mark where
  | cancelled
  | ended
  deriving DecidableEq, Repr

/-- How far an errand has come. -/
inductive Stage where
  | begun
  | waiting
  | sleeping
  | cleaning (fault : Fault)
  deriving DecidableEq, Repr

/-- An errand under way, with its number. -/
structure Running (τ : Type) where
  number : Nat
  errand : Errand τ
  stage : Stage := .begun

/-- The notes of all errands, with the number of the errand and the time, oldest first. -/
abbrev Notes (τ : Type) := List (Nat × Mark × τ)

variable {τ : Type}

def finish (g : Glance τ) (notes : Notes τ) (r : Running τ) : Turn τ (Notes τ) (Running τ) :=
  { world := notes ++ [(r.number, .ended, g.now)], state := r, pause := .finish .returned }

def recover (g : Glance τ) (notes : Notes τ) (r : Running τ) (fault : Fault) :
    Turn τ (Notes τ) (Running τ) :=
  if r.errand.swallows then finish g notes r
  else { world := notes, state := r, pause := .finish (.failed fault) }

def cancel (g : Glance τ) (notes : Notes τ) (r : Running τ) (fault : Fault) :
    Turn τ (Notes τ) (Running τ) :=
  let noted := notes ++ [(r.number, .cancelled, g.now)]
  match r.errand.cleanup with
  | some time =>
    { world := noted, state := { r with stage := .cleaning fault }, pause := .sleep time }
  | none => recover g noted r fault

def start (g : Glance τ) (notes : Notes τ) (r : Running τ) : Turn τ (Notes τ) (Running τ) :=
  match r.errand.kind with
  | .sleep time => { world := notes, state := { r with stage := .sleeping }, pause := .sleep time }
  | .awaitStop _ => { world := notes, state := { r with stage := .waiting }, pause := .untilStop }
  | .fail fault =>
    -- A fault that cancels is handled like a dismissal, which it cannot be told from.
    if fault.isCancelling then cancel g notes r fault
    else { world := notes, state := r, pause := .finish (.failed fault) }

/-- The turn of an errand after the stop flag was raised. -/
def stopped (g : Glance τ) (notes : Notes τ) (r : Running τ) : Turn τ (Notes τ) (Running τ) :=
  match r.errand.kind with
  | .awaitStop time =>
    { world := notes, state := { r with stage := .sleeping }, pause := .sleep time }
  | _ => finish g notes r

def work (g : Glance τ) (notes : Notes τ) (r : Running τ) (wake : Wake) :
    Turn τ (Notes τ) (Running τ) :=
  match r.stage, wake with
  | .begun, .elapsed => start g notes r
  -- It has not begun, so it notes nothing and has nothing to clean up.
  | .begun, .dismissed => { world := notes, state := r, pause := .finish (.failed .cancelled) }
  | .waiting, .elapsed => stopped g notes r
  | .waiting, .dismissed => cancel g notes r .cancelled
  | .sleeping, .elapsed => finish g notes r
  | .sleeping, .dismissed => cancel g notes r .cancelled
  | .cleaning fault, .elapsed => recover g notes r fault
  -- A dismissal while it cleans up is not handled any more.
  | .cleaning _, .dismissed =>
    { world := notes, state := r, pause := .finish (.failed .cancelled) }

/-- How errands stand when their shutdown is over. -/
structure Shutdown (τ : Type) where
  dismissed : Nat
  stop : Bool
  time : τ
  notes : Notes τ
  outcomes : List (Option Outcome)

namespace Shutdown

def entry (s : Shutdown τ) : Journal.Entry τ :=
  .usersShutDown s.dismissed

def notesOf (s : Shutdown τ) (number : Nat) : List (Mark × τ) :=
  s.notes.filterMap fun note => if note.1 = number then some note.2 else none

end Shutdown

/-- Runs errands and shuts them down, after a first wait if there is one. An errand that demands an
exit puts an end to it. -/
def shutDown [Scalar τ] (errands : List (Errand τ)) (waitFirst : Option τ) (grace now : τ)
    (budget : Nat) : Except Fault (Shutdown τ) :=
  let crew := List.zipWith (fun number errand => { number, errand })
    (List.range errands.length) errands
  let ended := Warden.conduct work crew waitFirst grace now [] budget
  match ended.demand with
  | some fault => .error fault
  | none =>
    .ok
      { dismissed := ended.supervisor.dismissed
        stop := ended.stop
        time := ended.now
        notes := ended.world
        outcomes := ended.glance.outcomes }

end Errand

end Volley
