/-!
# The lifecycle of a run

A run is created, running, stopping once it has been asked to end, and in the end completed or
failed.
-/

namespace Volley

/-- Where a run stands. -/
inductive Lifecycle where
  | created
  | running
  | stopping
  | completed
  | failed
  deriving DecidableEq, Repr

namespace Lifecycle

def name : Lifecycle → String
  | created => "CREATED"
  | running => "RUNNING"
  | stopping => "STOPPING"
  | completed => "COMPLETED"
  | failed => "FAILED"

/-- How far along a state is; the two end states are equally far. -/
def rank : Lifecycle → Nat
  | created => 0
  | running => 1
  | stopping => 2
  | completed => 3
  | failed => 3

def isFinal : Lifecycle → Bool
  | completed => true
  | failed => true
  | _ => false

end Lifecycle

end Volley
