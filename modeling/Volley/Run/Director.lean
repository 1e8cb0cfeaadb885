import Volley.Pool.Shutdown
import Volley.Run.VirtualUser

/-!
# The director of a run

The director is the supervisor of the virtual users. It starts them, waits for them at most as long
as the run may take, and shuts down those that are still at work then. A virtual user that failed
outside its iterations before the wait was over fails the run; an aborting fault passes through as
it is.

A session is a sequence of tasks for the director: to run, to ask for a stop, or just to look. All
of them work on one world, so a second run goes on where the first has ended.

## Main definitions

- `Run.Task`, `Run.Report`: what a director is asked for and what it reports.
- `Run.Director`, `Run.Director.supervise`.
- `Run.system`: the pool of a plan and a body.
- `Run.perform`: carries out a sequence of tasks.
-/

namespace Volley

namespace Run

open Pool

/-- What a director is asked for. -/
inductive Task where
  | run
  | stop
  | look
  deriving DecidableEq, Repr

/-- What came of a task. -/
inductive Ending (τ : Type) where
  | silent
  | result (result : RunResult τ)
  /-- The run failed because of a fault of a virtual user. -/
  | failed (cause : Fault)
  | aborted (fault : Fault)

/-- The report on a task: what came of it, and how the run stood afterwards. -/
structure Report (τ : Type) where
  ending : Ending τ
  lifecycle : Lifecycle
  active : Nat
  claimed : Nat
  time : τ

/-- What a director waits for. -/
inductive Phase (τ : Type) where
  | idle
  /-- For the virtual users of a run, at most as long as the run may take. -/
  | watching (start : τ)
  /-- For the shutdown of those that overran; one of the others may have failed before. -/
  | draining (start : τ) (failure : Option Fault) (stage : Shutdown.Stage)
  | failing (cause : Fault) (stage : Shutdown.Stage)

/-- A director: the tasks before it, what it waits for, and its reports, the latest first. -/
structure Director (τ : Type) where
  tasks : List Task
  phase : Phase τ := .idle
  reports : List (Report τ) := []

namespace Director

variable {τ β : Type}

abbrev RunCommand (τ β : Type) := Command τ (World τ) (Director τ) (VirtualUser τ β)

def report (d : Director τ) (g : Glance τ) (w : World τ) (stop : Bool) (ending : Ending τ) :
    RunCommand τ β :=
  { world := w
    state :=
      { d with
        phase := .idle
        reports :=
          { ending, lifecycle := w.lifecycle, active := Iteration.active g w, claimed := w.claimed,
            time := g.now } :: d.reports }
    stop
    order := .goOn }

/-- Removes the signal handlers if they were installed. -/
def removeHandlers (plan : Plan τ) (w : World τ) : World τ :=
  if plan.handlesSignals then w.changeHandlers false else w

/-- Starts a run: as many virtual users as wanted, but no more than there are iterations. -/
def begin (plan : Plan τ) (d : Director τ) (g : Glance τ) (w : World τ) : RunCommand τ β :=
  let wanted := plan.options.vus
  let iterations := plan.options.iterations
  let vus := min wanted iterations
  let warned := if vus < wanted then w.log (.fewerUsers wanted iterations vus) else w
  let running :=
    { warned with lifecycle := .running }.log
      (.starting plan.scenario vus iterations plan.options.maxDuration)
  let handled := if plan.handlesSignals then running.changeHandlers true else running
  -- Workers are numbered through the pool, so those of an earlier run keep their places.
  let crew := (List.range vus).map (g.outcomes.length + ·)
  { world := { handled with crew }
    state := { d with phase := .watching g.now }
    hire := (List.range vus).map fun vu => { vu }
    order := .wait crew (some plan.options.maxDuration) }

/-- Completes a run: takes the summary and gives the result. -/
def complete [Scalar τ] (plan : Plan τ) (d : Director τ) (g : Glance τ) (w : World τ) (start : τ) :
    RunCommand τ β :=
  -- The handlers are gone before the time is taken, so no signal comes between a run and its
  -- result.
  let cleared := removeHandlers plan w
  let duration := g.now - start
  let summary := cleared.collector.summarize duration
  let completed :=
    { cleared.log cleared.collector.summaryEntry with lifecycle := .completed }.log
      (.completed duration summary.iterations summary.iterationErrors summary.checksPassed
        summary.checksFailed)
  d.report g completed false (.result
    { scenarioName := plan.scenario
      vus := min plan.options.vus plan.options.iterations
      iterationsPlanned := plan.options.iterations
      startTime := start
      endTime := g.now
      duration
      interrupted := decide (summary.iterations + summary.iterationErrors < plan.options.iterations)
      summary := some summary })

/-- The command that goes on with a shutdown: it waits in the phase of the stage, or goes on with
`afterwards` once the shutdown has been remarked on. -/
def shutDown (d : Director τ) (g : Glance τ) (w : World τ) (stop : Bool)
    (progress : Shutdown.Progress τ) (phase : Shutdown.Stage → Phase τ)
    (afterwards : World τ → RunCommand τ β) : RunCommand τ β :=
  match progress with
  | .waiting dismiss crew limit stage =>
    { world := dismiss.foldl (fun w worker => w.record (.dismissed worker g.now)) w
      state := { d with phase := phase stage }
      stop
      dismiss
      order := .wait crew (some limit) }
  | .ended dismissed =>
    -- What follows happens in the same turn, so the stop is added to its own.
    let command := afterwards (w.log (.usersShutDown dismissed))
    { command with stop := command.stop || stop }

/-- Goes on with the shutdown after a failure, which ends with the handlers removed. -/
def failWith (plan : Plan τ) (d : Director τ) (g : Glance τ) (w : World τ) (stop : Bool)
    (cause : Fault) (progress : Shutdown.Progress τ) : RunCommand τ β :=
  d.shutDown g w stop progress (.failing cause) fun w =>
    d.report g (removeHandlers plan w) false (.failed cause)

/-- Ends a run whose virtual users have been waited for. -/
def conclude [Scalar τ] (plan : Plan τ) (d : Director τ) (g : Glance τ) (w : World τ) (start : τ)
    (failure : Option Fault) : RunCommand τ β :=
  match failure with
  | none => d.complete plan g w start
  | some fault =>
    -- A demand to exit or a cancellation is no failure of the run, whose state stays as it is.
    if fault.isOrdinary then
      let failed := { w with lifecycle := .failed }.log .runFailed
      d.failWith plan g failed true fault (Shutdown.begin (g.pending w.crew) Shutdown.grace)
    else d.report g (removeHandlers plan w) false (.aborted fault)

/-- Goes on with the shutdown of the users that overran, after which the run ends. -/
def drain [Scalar τ] (plan : Plan τ) (d : Director τ) (g : Glance τ) (w : World τ) (stop : Bool)
    (start : τ) (failure : Option Fault) (progress : Shutdown.Progress τ) : RunCommand τ β :=
  d.shutDown g w stop progress (.draining start failure) fun w => d.conclude plan g w start failure

/-- The first failure of a virtual user, in the order in which they were started. -/
def firstFailure (g : Glance τ) (crew : List Nat) : Option Fault :=
  crew.findSome? fun i => (g.outcome? i).bind Outcome.fault?

def waited [Scalar τ] (plan : Plan τ) (d : Director τ) (g : Glance τ) (w : World τ) (start : τ) :
    RunCommand τ β :=
  -- This is the only look at failures; who fails in the shutdown that may follow is not seen.
  let failure := firstFailure g w.crew
  let pending := g.pending w.crew
  if pending.isEmpty then d.conclude plan g w start failure
  else
    let unclaimed : Int := (plan.options.iterations : Int) - (w.claimed : Int)
    let stopping :=
      { w.log (.durationReached plan.options.maxDuration unclaimed) with lifecycle := .stopping }
    d.drain plan g stopping true start failure (Shutdown.begin pending Shutdown.grace)

def supervise [Scalar τ] (plan : Plan τ) (g : Glance τ) (w : World τ) (d : Director τ) :
    RunCommand τ β :=
  match d.phase with
  | .watching start => d.waited plan g w start
  | .draining start failure stage =>
    d.drain plan g w false start failure (Shutdown.resume g stage)
  | .failing cause stage => d.failWith plan g w false cause (Shutdown.resume g stage)
  | .idle =>
    match d.tasks with
    | [] => { world := w, state := d, order := .finish }
    | .run :: rest => { d with tasks := rest }.begin plan g w
    | .stop :: rest =>
      let (stop, w') := w.requestStop
      { d with tasks := rest }.report g w' stop .silent
    | .look :: rest => { d with tasks := rest }.report g w false .silent

/-- What a director does when it is dismissed itself: it removes the handlers of a run, unless the
run has failed and its last shutdown was not over. -/
def giveUp (plan : Plan τ) (w : World τ) (d : Director τ) : World τ :=
  match d.phase with
  | .watching _ => removeHandlers plan w
  | .draining _ _ _ => removeHandlers plan w
  | .failing _ _ => w
  | .idle => w

end Director

variable {τ β : Type}

def system [Scalar τ] (plan : Plan τ) (body : Body τ β) :
    System τ (World τ) (Director τ) (VirtualUser τ β) where
  work := VirtualUser.work plan body
  supervise := Director.supervise plan
  interrupted _ w := w.signalled
  giveUp := Director.giveUp plan

def initial (tasks : List Task) (transport : Http.Transport τ) (now : τ) :
    State τ (World τ) (Director τ) (VirtualUser τ β) :=
  { now, supervisor := { tasks }, world := { transport } }

/-- What came of a session: a report on every task, the world at the end, and the demand to exit
that halted it, if a virtual user ended by one. -/
structure Session (τ : Type) where
  reports : List (Report τ)
  world : World τ
  time : τ
  demand : Option Fault := none

/-- Carries out tasks one after another. When they are done or the session is halted, all who are
still at work are dismissed and run to their end. -/
def perform [Scalar τ] (plan : Plan τ) (body : Body τ β) (tasks : List Task)
    (transport : Http.Transport τ) (now : τ) (budget : Nat) : Session τ :=
  let sys := system plan body
  let conducted := conduct sys budget (initial tasks transport now)
  let ended := windUp sys budget ampleRounds conducted
  { reports := ended.supervisor.reports.reverse, world := ended.world, time := ended.now,
    demand := ended.demand }

end Run

end Volley
