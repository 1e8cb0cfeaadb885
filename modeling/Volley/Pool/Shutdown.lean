import Volley.Pool

/-!
# Shutting down a crew

A shutdown raises the stop flag and gives the crew some time to end by itself. It then dismisses
those workers that have not ended, and waits a little for the dismissals to land. A crew of nobody
is shut down at once.

## Main definitions

- `Pool.Shutdown.begin`, `Pool.Shutdown.resume`: the supervisor's part of a shutdown, step by step.
- `Pool.Shutdown.grace`, `Pool.Shutdown.settle`: the usual times.
-/

namespace Volley

namespace Pool

namespace Shutdown

/-- What a shutdown waits for. -/
inductive Stage where
  | grace (crew : List Nat)
  /-- The dismissed workers may end; there were so many of them. -/
  | settling (dismissed : Nat)
  deriving DecidableEq, Repr

/-- What the supervisor does next in a shutdown: it waits in a stage, or the shutdown is over and so
many workers had to be dismissed. -/
inductive Progress (τ : Type) where
  | waiting (dismiss crew : List Nat) (limit : τ) (stage : Stage)
  | ended (dismissed : Nat)

variable {τ : Type} [Scalar τ]

/-- The time that a crew has unless told otherwise, in seconds. -/
def grace : τ := Scalar.ofNat 5

def settle : τ := Scalar.ofNat 2

/-- Starts to shut down a crew; the stop flag has been raised. -/
def begin (crew : List Nat) (gracePeriod : τ) : Progress τ :=
  if crew.isEmpty then .ended 0 else .waiting [] crew gracePeriod (.grace crew)

def resume (g : Glance τ) (stage : Stage) : Progress τ :=
  match stage with
  | .grace crew =>
    let pending := g.pending crew
    if pending.isEmpty then .ended 0
    -- They are waited for once more, but not asked again how they ended.
    else .waiting pending pending settle (.settling pending.length)
  | .settling dismissed => .ended dismissed

end Shutdown

end Pool

end Volley
