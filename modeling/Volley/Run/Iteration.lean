import Volley.Pool
import Volley.Run.World

/-!
# One iteration

An iteration takes the body of a scenario from cue to cue. Where the body sleeps or sends a request
the iteration pauses; everything else it does at once.

## Main definitions

- `Run.Iteration.Stage`: what an iteration is about.
- `Run.Iteration.step`: one move of the body, or the end of a pause.
-/

namespace Volley

namespace Run

namespace Iteration

open Http Pool

/-- What an iteration is about. -/
inductive Stage (τ β : Type) where
  | cued (state : β) (cue : Cue)
  | resting (state : β)
  | requesting (state : β) (flight : Flight τ)

/-- How an iteration goes on: with a pause, or not at all. -/
inductive Next (τ β : Type) where
  | going (stage : Stage τ β) (pause : Pause τ)
  | ended (fault : Option Fault)

/-- What one step of an iteration did. -/
structure Effect (τ β : Type) where
  world : World τ
  stop : Bool := false
  interrupt : Bool := false
  next : Next τ β

variable {τ β : Type}

def cue (w : World τ) (state : β) (cue : Cue) : Effect τ β :=
  { world := w, next := .going (.cued state cue) .goOn }

/-- Goes on with a request that has come so far: it pauses, or is recorded and reported to the body.
-/
def follow (w : World τ) (state : β) (progress : Progress τ) : Effect τ β :=
  match progress with
  | .waiting delay flight =>
    { world := w, next := .going (.requesting state flight) (.sleep delay) }
  | .ended metric outcome =>
    -- The metric is recorded before the body hears of the end, also if the request was cancelled.
    let recorded := { w with collector := w.collector.recordRequest metric }
    match outcome with
    | .ok response => cue recorded state (.answered response)
    | .error fault => cue recorded state (.faulted fault)

/-- Records the results and the remarks of an evaluation of checks. -/
def recordChecks (w : World τ) (report : Checks.Report) : World τ :=
  let remarked := report.raised.foldl (fun w label => w.log (.checkRaised label)) w
  report.delivered.foldl (fun w result =>
    { w with collector := w.collector.recordCheck result }.record (.checked result)) remarked

def active (g : Glance τ) (w : World τ) : Nat :=
  (g.pending w.crew).length

def perform [Scalar τ] (client : Client τ) (iteration : Int) (g : Glance τ) (w : World τ)
    (state : β) (move : Move τ) : Effect τ β :=
  match move with
  | .finish => { world := w, next := .ended none }
  | .fail fault => { world := w, next := .ended (some fault) }
  | .get path headers name =>
    match client.send w.transport g.now path headers name with
    -- Without a session nothing is sent, so there is nothing to measure.
    | (.error fault, transport) => cue { w with transport } state (.faulted fault)
    | (.ok flight, transport) =>
      let sent := { w with transport }.record (.requested client.vu (client.session.getD 0))
      follow sent state (flight.advance g.now)
  | .check subject checks =>
    let report := Checks.evaluate Checks.receiveAll subject client.vu iteration checks
    -- What was delivered before a fault stays recorded.
    let recorded := recordChecks w report
    match report.outcome with
    | .ok passed => cue recorded state (.checked passed)
    | .error fault => cue recorded state (.faulted fault)
  | .sleep time => { world := w, next := .going (.resting state) (.sleep time) }
  | .hang => { world := w, next := .going (.resting state) .forever }
  | .stop =>
    let (stop, w') := w.requestStop
    { cue w' state (.stopped w'.lifecycle) with stop }
  | .look => cue w state (.looked w.lifecycle (active g w) w.claimed)
  | .signal name =>
    -- The handler does not run here; it is queued and runs behind the jobs of this round.
    let handled := w.handling && signals.contains name
    { cue w state (.signalled handled) with interrupt := handled }

/-- One step of an iteration of a client: a move of the body, or the end of a pause. -/
def step [Scalar τ] (body : Body τ β) (client : Client τ) (iteration : Int) (g : Glance τ)
    (w : World τ) (stage : Stage τ β) (wake : Wake) : Effect τ β :=
  match stage, wake with
  | .cued state cue, _ =>
    let answer := body.respond state cue
    perform client iteration g (w.note client.vu g.now answer.notes) answer.state answer.move
  | .resting state, .elapsed => cue w state .rested
  -- The body may take a dismissal as it likes: it is a fault like others.
  | .resting state, .dismissed => cue w state (.faulted .cancelled)
  | .requesting state flight, .elapsed => follow w state (flight.advance g.now)
  | .requesting state flight, .dismissed => follow w state (flight.fail g.now .cancelled)

end Iteration

end Run

end Volley
