import Volley.Fault
import Volley.Heap
import Volley.Scalar

/-!
# Cooperative workers under a supervisor

A pool runs workers and one supervisor on a clock of its own. It works in rounds. In a round all
jobs run that were queued when it began, one after another, each until it pauses; what is queued
meanwhile waits for the next round. A round begins with the alarms of all timers that are due, which
come behind the queued jobs in order of deadline and age. The clock stands still while a job is
queued. When none is, it moves to the earliest timer. A deadline that is no time at all comes
neither before nor after any other; its timer is due as soon as it is the first of the heap of
timers.

An alarm does not wake its sleeper at once: it queues the sleeper's turn. In the same way the end of
a worker is first news, and the last news that the supervisor waited for queues its turn.

Only the supervisor hires and dismisses workers. A dismissal strikes a worker at its pause: a
resting worker becomes ready at once, and learns of the dismissal when it runs. The pool has a stop
flag, which is never lowered, and an interrupt, which any worker may have queued. When the
supervisor has finished, the pool closes at the end of the next round. A worker that ends by a
demand to exit halts the pool on the spot.

## Main definitions

- `Pool.Pause`, `Pool.Turn`: how a worker pauses and what it did before.
- `Pool.Order`, `Pool.Command`: how the supervisor pauses and what it did before.
- `Pool.System`: the behaviour of workers, supervisor and interrupt over a shared world.
- `Pool.State`, `Pool.step`: a pool at work; `none` when nothing is left that could happen.
- `Pool.conduct`, `Pool.exhaust`, `Pool.windUp`: work until the supervisor is done; close; end what
  is left.
-/

namespace Volley

namespace Pool

/-- How the pause of a worker ended. -/
inductive Wake where
  | elapsed
  | dismissed
  deriving DecidableEq, Repr

/-- How a worker ended. A worker that ended by a cancelling fault counts as cancelled. -/
inductive Outcome where
  | returned
  | failed (fault : Fault)
  deriving DecidableEq, Repr

namespace Outcome

/-- The fault that a worker ended by, unless it was cancelled. -/
def fault? : Outcome → Option Fault
  | returned => none
  | failed fault => if fault.isCancelling then none else some fault

def demand? : Outcome → Option Fault
  | returned => none
  | failed fault => if fault.isExiting then some fault else none

end Outcome

/-- How a worker pauses. A sleep of no time gives way to the jobs that are ready. -/
inductive Pause (τ : Type) where
  | goOn
  | sleep (time : τ)
  | untilStop
  | forever
  | finish (outcome : Outcome)

/-- Who takes turns. -/
inductive Member where
  | worker (i : Nat)
  | supervisor
  deriving DecidableEq, Repr

/-- What waits in the queue. -/
inductive Job where
  | turn (member : Member)
  /-- The timer of a sleeper, or of a waiting supervisor, is due. -/
  | alarm (member : Member)
  | news (worker : Nat)
  | interrupt
  | close
  deriving DecidableEq, Repr

/-- A member whose alarm goes off at a time. Of two timers the older one has the lower age number. A
timer that is not live any more goes off for nobody. -/
structure Timer (τ : Type) where
  deadline : τ
  age : Nat
  member : Member
  live : Bool := true

/-- Whether a timer comes before another: by deadline, and of one deadline by age. -/
def Timer.before {τ : Type} [Scalar τ] (a b : Timer τ) : Bool :=
  decide (a.deadline < b.deadline) || (decide (a.deadline ≤ b.deadline) && decide (a.age < b.age))

/-- What a worker is about. -/
inductive Status where
  | ready
  | resting
  | awaitingStop
  | ended (outcome : Outcome)
  deriving DecidableEq, Repr

/-- A worker with the state `κ` of its behaviour. -/
structure Worker (κ : Type) where
  state : κ
  status : Status := .ready
  dismissed : Bool := false

def Worker.outcome? {κ : Type} (w : Worker κ) : Option Outcome :=
  match w.status with
  | .ended outcome => some outcome
  | _ => none

/-- What the supervisor is about. -/
inductive Attention where
  | ready
  | asleep
  /-- Waiting for the news that these workers have ended. -/
  | awaiting (crew : List Nat)
  | finished
  deriving DecidableEq, Repr

/-- What a job can see of the pool: the clock, the stop flag and how the workers ended that did. -/
structure Glance (τ : Type) where
  now : τ
  stop : Bool
  outcomes : List (Option Outcome)

namespace Glance

variable {τ : Type}

def outcome? (g : Glance τ) (i : Nat) : Option Outcome :=
  (g.outcomes[i]?).getD none

def pending (g : Glance τ) (crew : List Nat) : List Nat :=
  crew.filter fun i => (g.outcome? i).isNone

end Glance

/-- What a worker did in its turn. -/
structure Turn (τ ω κ : Type) where
  world : ω
  state : κ
  /-- Raise the stop flag. -/
  stop : Bool := false
  /-- Queue the interrupt. -/
  interrupt : Bool := false
  pause : Pause τ

/-- How the supervisor pauses. Waiting ends when the crew has ended, or when the time is over. -/
inductive Order (τ : Type) where
  | goOn
  | sleep (time : τ)
  | wait (crew : List Nat) (limit : Option τ)
  | finish

/-- What the supervisor did in its turn, in this order: it hires, raises the stop flag, dismisses
and pauses. -/
structure Command (τ ω σ κ : Type) where
  world : ω
  state : σ
  hire : List κ := []
  stop : Bool := false
  dismiss : List Nat := []
  order : Order τ

/-- The behaviour of a pool over a world `ω` with workers `κ` and a supervisor `σ`. The interrupt
raises the stop flag besides what it does to the world. A supervisor that is dismissed itself, which
happens only when the pool was halted, gives up what it holds and is finished. -/
structure System (τ ω σ κ : Type) where
  work : Glance τ → ω → κ → Wake → Turn τ ω κ
  supervise : Glance τ → ω → σ → Command τ ω σ κ
  interrupted : Glance τ → ω → ω
  giveUp : ω → σ → ω := fun world _ => world

/-- A pool at work: the jobs that are left of the round, the queue for the next round, the timers
and how many there have been. -/
structure State (τ ω σ κ : Type) where
  now : τ
  stop : Bool := false
  round : List Job := []
  queue : List Job := [.turn .supervisor]
  timers : Heap (Timer τ) := .empty
  timersSet : Nat := 0
  workers : List (Worker κ) := []
  attention : Attention := .ready
  /-- The supervisor is dismissed. -/
  givenUp : Bool := false
  /-- The round is the last. -/
  closing : Bool := false
  /-- The demand to exit that halted the pool. -/
  demand : Option Fault := none
  supervisor : σ
  world : ω

namespace State

variable {τ ω σ κ : Type}

def glance (s : State τ ω σ κ) : Glance τ :=
  { now := s.now, stop := s.stop, outcomes := s.workers.map Worker.outcome? }

def enqueue (s : State τ ω σ κ) (job : Job) : State τ ω σ κ :=
  { s with queue := s.queue ++ [job] }

def proceed (s : State τ ω σ κ) (member : Member) : State τ ω σ κ :=
  { s with round := .turn member :: s.round }

def setTimer [Scalar τ] (s : State τ ω σ κ) (time : τ) (member : Member) : State τ ω σ κ :=
  let timer : Timer τ := { deadline := s.now + time, age := s.timersSet, member }
  { s with timers := s.timers.push Timer.before timer, timersSet := s.timersSet + 1 }

/-- Cancels the timers of a member, and its alarms that are still to come in this round. -/
def clearTimers (s : State τ ω σ κ) (member : Member) : State τ ω σ κ :=
  { s with
    round := s.round.filter fun job => job ≠ .alarm member
    timers := s.timers.map fun t => if t.member = member then { t with live := false } else t }

def mark (s : State τ ω σ κ) (i : Nat) (status : Status) : State τ ω σ κ :=
  { s with workers := s.workers.modify i fun w => { w with status } }

/-- Raises the stop flag; the workers that waited for it become ready in order. -/
def raiseStop (s : State τ ω σ κ) : State τ ω σ κ :=
  -- By number, which is the order in which workers wait that do so in their first turn.
  let waiting := (List.range s.workers.length).filter fun i =>
    (s.workers[i]?).any fun w => w.status == .awaitingStop
  { s with
    stop := true
    queue := s.queue ++ waiting.map fun i => .turn (.worker i)
    workers := s.workers.map fun w =>
      if w.status = .awaitingStop then { w with status := .ready } else w }

def rouse (s : State τ ω σ κ) : State τ ω σ κ :=
  { s.clearTimers .supervisor with attention := .ready }.enqueue (.turn .supervisor)

/-- The supervisor hears that a worker has ended. It is roused by the last such news. -/
def hear (s : State τ ω σ κ) (i : Nat) : State τ ω σ κ :=
  match s.attention with
  | .awaiting crew =>
    if crew.contains i then
      match crew.erase i with
      | [] => s.rouse
      | others => { s with attention := .awaiting others }
    else s
  | _ => s

/-- Sends out the news that a worker has ended, if the supervisor waits for it. -/
def announce (s : State τ ω σ κ) (i : Nat) : State τ ω σ κ :=
  match s.attention with
  | .awaiting crew => if crew.contains i then s.enqueue (.news i) else s
  | _ => s

/-- An alarm makes its member ready, unless something else did in the meantime. -/
def ring (s : State τ ω σ κ) (member : Member) : State τ ω σ κ :=
  match member with
  | .worker i =>
    match s.workers[i]? with
    | some w =>
      -- A worker that was dismissed meanwhile is ready already, and its turn is queued.
      if w.status = .resting then (s.mark i .ready).enqueue (.turn member) else s
    | none => s
  | .supervisor =>
    match s.attention with
    | .asleep | .awaiting _ => s.rouse
    | .ready | .finished => s

/-- Dismisses a worker unless it has ended. One that rests becomes ready at once; it cancels its
timer itself when it runs. -/
def dismiss (s : State τ ω σ κ) (i : Nat) : State τ ω σ κ :=
  match s.workers[i]? with
  | none => s
  | some w =>
    match w.status with
    | .ended _ => s
    -- It has a turn in the queue, in which it learns of the dismissal.
    | .ready => { s with workers := s.workers.set i { w with dismissed := true } }
    | .resting | .awaitingStop =>
      { s with
        workers := s.workers.set i { w with dismissed := true, status := .ready }
      }.enqueue (.turn (.worker i))

def dismissSupervisor (s : State τ ω σ κ) : State τ ω σ κ :=
  match s.attention with
  | .finished => s
  | .ready => { s with givenUp := true }
  | .asleep | .awaiting _ => { s with givenUp := true }.rouse

/-- Takes on a worker, which queues up for its first turn. -/
def hire (s : State τ ω σ κ) (state : κ) : State τ ω σ κ :=
  let newcomer : Worker κ := { state }
  { s with workers := s.workers ++ [newcomer] }.enqueue (.turn (.worker s.workers.length))

def finishWorker (s : State τ ω σ κ) (i : Nat) (outcome : Outcome) : State τ ω σ κ :=
  -- A demand to exit stays with the pool, where it stops the next step.
  { (s.mark i (.ended outcome)).announce i with demand := outcome.demand? }

def pauseWorker [Scalar τ] (s : State τ ω σ κ) (i : Nat) (pause : Pause τ) : State τ ω σ κ :=
  match pause with
  | .goOn => s.proceed (.worker i)
  | .sleep time =>
    -- There is no timer: the turn comes behind the jobs of this round.
    if time ≤ 0 then s.enqueue (.turn (.worker i))
    else (s.mark i .resting).setTimer time (.worker i)
  | .untilStop => if s.stop then s.proceed (.worker i) else s.mark i .awaitingStop
  | .forever => s.mark i .resting
  | .finish outcome => s.finishWorker i outcome

/-- Lets the supervisor wait for a crew. Those who have ended before are news at once. -/
def await (s : State τ ω σ κ) (crew : List Nat) : State τ ω σ κ :=
  let pending := s.glance.pending crew
  { s with
    attention := .awaiting crew
    queue := s.queue ++ (crew.filter fun i => !pending.contains i).map Job.news }

def pauseSupervisor [Scalar τ] (s : State τ ω σ κ) (order : Order τ) : State τ ω σ κ :=
  match order with
  | .goOn => s.proceed .supervisor
  | .sleep time =>
    if time ≤ 0 then s.enqueue (.turn .supervisor)
    else { s with attention := .asleep }.setTimer time .supervisor
  | .wait crew limit =>
    -- Waiting for nobody gives way like a sleep of no time.
    if crew.isEmpty then s.enqueue (.turn .supervisor)
    else match limit with
      | none => s.await crew
      | some time => (s.await crew).setTimer time .supervisor
  | .finish => { s with attention := .finished }.enqueue .close

end State

variable {τ ω σ κ : Type} [Scalar τ]

def runWorker (sys : System τ ω σ κ) (s : State τ ω σ κ) (i : Nat) : State τ ω σ κ :=
  match s.workers[i]? with
  | none => s
  | some w =>
    let turn := sys.work s.glance s.world w.state (if w.dismissed then .dismissed else .elapsed)
    -- The timer of a sleep that was cut short is not live any more, and neither is its alarm.
    let awake := if w.dismissed then s.clearTimers (.worker i) else s
    let moved :=
      { awake with
        world := turn.world
        workers := s.workers.set i { w with state := turn.state, dismissed := false } }
    -- In this order: workers that waited for the flag come before the interrupt.
    let stopped := if turn.stop then moved.raiseStop else moved
    let queued := if turn.interrupt then stopped.enqueue .interrupt else stopped
    queued.pauseWorker i turn.pause

def runSupervisor (sys : System τ ω σ κ) (s : State τ ω σ κ) : State τ ω σ κ :=
  if s.givenUp then
    { s with world := sys.giveUp s.world s.supervisor, attention := .finished, givenUp := false }
  else
    let command := sys.supervise s.glance s.world s.supervisor
    let moved := { s with world := command.world, supervisor := command.state }
    let hired := command.hire.foldl State.hire moved
    let stopped := if command.stop then hired.raiseStop else hired
    let dismissed := command.dismiss.foldl State.dismiss stopped
    dismissed.pauseSupervisor command.order

/-- The interrupt does its work and raises the stop flag. -/
def runInterrupt (sys : System τ ω σ κ) (s : State τ ω σ κ) : State τ ω σ κ :=
  { s with world := sys.interrupted s.glance s.world }.raiseStop

def run (sys : System τ ω σ κ) (s : State τ ω σ κ) : Job → State τ ω σ κ
  | .turn (.worker i) => runWorker sys s i
  | .turn .supervisor => runSupervisor sys s
  | .alarm member => s.ring member
  | .news i => s.hear i
  | .interrupt => runInterrupt sys s
  | .close => { s with closing := true }

/-- Drops the timers at the top of the heap that are not live any more. -/
def liveTimers (s : State τ ω σ κ) : Heap (Timer τ) :=
  (s.timers.popWhile Timer.before fun t => !t.live).2

/-- The time at which the next round begins: now if something is queued, and else when the first
timer is due. -/
def nextTime (s : State τ ω σ κ) : τ :=
  match s.queue, (liveTimers s).top? with
  -- A deadline that is past does not turn the clock back.
  | [], some timer => if s.now < timer.deadline then timer.deadline else s.now
  | _, _ => s.now

def beginRound (s : State τ ω σ κ) : Option (State τ ω σ κ) :=
  let now := nextTime s
  let (due, timers) := (liveTimers s).popWhile Timer.before fun t => !decide (now < t.deadline)
  -- Alarms come behind the jobs that were queued, and of timers that are not live there are none.
  match s.queue ++ (due.filter Timer.live).map fun t => .alarm t.member with
  | [] => none
  | jobs => some { s with now, round := jobs, queue := [], timers }

/-- One step of a pool: the next job of the round runs, or the next round begins. -/
def step (sys : System τ ω σ κ) (s : State τ ω σ κ) : Option (State τ ω σ κ) :=
  -- A pool that was halted does nothing, also if jobs are left of the round.
  if s.demand.isSome then none
  else match s.round with
    | job :: rest => some (run sys { s with round := rest } job)
    | [] => if s.closing then none else beginRound s

/-- Steps until nothing can happen any more, at most `budget` times. -/
def exhaust (sys : System τ ω σ κ) : (budget : Nat) → State τ ω σ κ → State τ ω σ κ
  | 0, s => s
  | budget + 1, s =>
    match step sys s with
    | none => s
    | some next => exhaust sys budget next

/-- Steps until the supervisor has finished, at most `budget` times. -/
def conduct (sys : System τ ω σ κ) : (budget : Nat) → State τ ω σ κ → State τ ω σ κ
  | 0, s => s
  | budget + 1, s =>
    if s.attention = .finished then s
    else match step sys s with
      | none => s
      | some next => conduct sys budget next

def dismissAll (s : State τ ω σ κ) : State τ ω σ κ :=
  (List.range s.workers.length).foldl State.dismiss s.dismissSupervisor

def allEnded (s : State τ ω σ κ) : Bool :=
  s.attention == .finished && s.workers.all fun w => w.outcome?.isSome

/-- A pool that goes on after it has closed or has been halted; what was left of the round comes
first. -/
def reopen (s : State τ ω σ κ) : State τ ω σ κ :=
  { s with round := [], queue := s.round ++ s.queue, closing := false, demand := none }

/-- Dismisses all that are left and lets them run to their end. Those that come to rest for good
after a dismissal are dismissed again, at most `rounds` times. A demand to exit ends it all. -/
def endAll (sys : System τ ω σ κ) (budget : Nat) : (rounds : Nat) → State τ ω σ κ → State τ ω σ κ
  | 0, s => s
  | rounds + 1, s =>
    -- Nobody is left to dismiss, but jobs may be queued still.
    if allEnded s then exhaust sys budget s
    else
      let ended := exhaust sys budget (dismissAll s)
      if ended.demand.isSome then ended else endAll sys budget rounds ended

/-- Closes a pool and ends what is left in it. It keeps the latest demand to exit. -/
def windUp (sys : System τ ω σ κ) (budget rounds : Nat) (s : State τ ω σ κ) : State τ ω σ κ :=
  let closed := exhaust sys budget s
  let ended := endAll sys budget rounds (reopen closed)
  { ended with demand := ended.demand.or closed.demand }

/-- More steps than any finite piece of work takes: the bound of a run that is not given one. -/
def ampleBudget : Nat := 1000000000000

/-- How often workers that come to rest for good are dismissed at the end. -/
def ampleRounds : Nat := 1000

end Pool

end Volley
