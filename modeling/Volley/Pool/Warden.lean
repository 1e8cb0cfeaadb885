import Volley.Pool.Shutdown

/-!
# The warden

A warden has one task: it starts a crew, may let some time pass, and then shuts the crew down. What
the workers do, and how they take it, is up to them.

## Main definitions

- `Pool.Warden`: where a warden stands; `Pool.Warden.supervise` is its turn.
- `Pool.Warden.system`: the pool of a warden and workers of any behaviour.
- `Pool.Warden.conduct`: runs a crew, shuts it down, and gives the pool as it stands then.
-/

namespace Volley

namespace Pool

/-- Where a warden stands with a crew of workers `κ`. -/
inductive Warden (τ κ : Type) where
  /-- The crew has to be started; the shutdown may begin some time later. -/
  | starting (crew : List κ) (waitFirst : Option τ) (grace : τ)
  | waitingFirst (crew : List Nat) (grace : τ)
  | shuttingDown (stage : Shutdown.Stage)
  | ended (dismissed : Nat)

namespace Warden

variable {τ ω κ : Type}

/-- How many workers had to be dismissed; none before the shutdown is over. -/
def dismissed : Warden τ κ → Nat
  | ended n => n
  | _ => 0

def proceed (world : ω) (stop : Bool) (progress : Shutdown.Progress τ) :
    Command τ ω (Warden τ κ) κ :=
  match progress with
  | .waiting dismiss crew limit stage =>
    { world, state := .shuttingDown stage, stop, dismiss, order := .wait crew (some limit) }
  | .ended dismissed => { world, state := .ended dismissed, stop, order := .finish }

def supervise [Scalar τ] (g : Glance τ) (world : ω) (warden : Warden τ κ) :
    Command τ ω (Warden τ κ) κ :=
  match warden with
  | .starting hire waitFirst grace =>
    let crew := List.range hire.length
    match waitFirst with
    | some time => { world, state := .waitingFirst crew grace, hire, order := .sleep time }
    -- The crew is hired and the flag is raised in one turn, so no worker runs before it is up.
    | none => { proceed world true (Shutdown.begin crew grace) with hire }
  | .waitingFirst crew grace => proceed world true (Shutdown.begin crew grace)
  -- The stop flag is up already.
  | .shuttingDown stage => proceed world false (Shutdown.resume g stage)
  | .ended _ => { world, state := warden, order := .finish }

def system [Scalar τ] (work : Glance τ → ω → κ → Wake → Turn τ ω κ) :
    System τ ω (Warden τ κ) κ where
  work := work
  supervise := supervise
  interrupted _ world := world

/-- Runs a crew and shuts it down, after a first wait if there is one. -/
def conduct [Scalar τ] (work : Glance τ → ω → κ → Wake → Turn τ ω κ) (crew : List κ)
    (waitFirst : Option τ) (grace now : τ) (world : ω) (budget : Nat) :
    State τ ω (Warden τ κ) κ :=
  Pool.conduct (system work) budget { now, supervisor := .starting crew waitFirst grace, world }

end Warden

end Pool

end Volley
