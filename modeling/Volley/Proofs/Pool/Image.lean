import Volley.Proofs.Pool.Schedule

/-!
# Pools that differ in what they work on

Two pools may be of different worlds, supervisors and workers and still do the same, one being the
image of the other under maps of the three. If the behaviours of worker, supervisor and interrupt
agree along the maps, so does every operation of the pool, under the clock and under any other
schedule.

## Main definitions

- `Pool.Translation`: the maps, with the images of workers, turns, commands, states and views.
- `Pool.Translation.Respects`: the behaviours of two systems agree along the maps.

## Main results

- `runWorker_image`, `runSupervisor_image`, `runInterrupt_image`: turns.
- `step_image`: one step.
- `conduct_image`, `windUp_image`: a pool that is conducted and wound up.
-/

namespace Volley

namespace Pool

/-- Maps of what a pool works on. -/
structure Translation (ω σ κ ω' σ' κ' : Type) where
  world : ω → ω'
  supervisor : σ → σ'
  worker : κ → κ'

variable {τ ω σ κ ω' σ' κ' : Type}

/-- The same worker at another work. -/
def Worker.map (f : κ → κ') (w : Worker κ) : Worker κ' :=
  { state := f w.state, status := w.status, dismissed := w.dismissed }

@[simp] theorem Worker.outcome?_map (f : κ → κ') (w : Worker κ) :
    (w.map f).outcome? = w.outcome? :=
  rfl

namespace Translation

variable (f : Translation ω σ κ ω' σ' κ')

def turn (t : Turn τ ω κ) : Turn τ ω' κ' :=
  { world := f.world t.world, state := f.worker t.state, stop := t.stop,
    interrupt := t.interrupt, pause := t.pause }

def command (c : Command τ ω σ κ) : Command τ ω' σ' κ' :=
  { world := f.world c.world, state := f.supervisor c.state, hire := c.hire.map f.worker,
    stop := c.stop, dismiss := c.dismiss, order := c.order }

/-- The behaviours of two systems agree along the maps. -/
structure Respects (sys : System τ ω σ κ) (sys' : System τ ω' σ' κ') : Prop where
  work : ∀ g w k wake, sys'.work g (f.world w) (f.worker k) wake = f.turn (sys.work g w k wake)
  supervise : ∀ g w d,
    sys'.supervise g (f.world w) (f.supervisor d) = f.command (sys.supervise g w d)
  interrupted : ∀ g w, sys'.interrupted g (f.world w) = f.world (sys.interrupted g w)
  giveUp : ∀ w d, sys'.giveUp (f.world w) (f.supervisor d) = f.world (sys.giveUp w d)

end Translation

/-- The image of what is seen of a pool. -/
def View.image (f : Translation ω σ κ ω' σ' κ') (v : View ω σ κ) : View ω' σ' κ' :=
  { v with
    world := f.world v.world
    supervisor := f.supervisor v.supervisor
    crew := v.crew.map fun standing => { standing with state := f.worker standing.state } }

namespace State

variable (f : Translation ω σ κ ω' σ' κ') (s : State τ ω σ κ)

/-- The same pool of another world, supervisor and workers. -/
def image : State τ ω' σ' κ' :=
  { s with
    workers := s.workers.map (Worker.map f.worker)
    supervisor := f.supervisor s.supervisor
    world := f.world s.world }

@[simp] theorem attention_image : (s.image f).attention = s.attention :=
  rfl

@[simp] theorem demand_image : (s.image f).demand = s.demand :=
  rfl

/-- What is seen of the image is the image of what is seen. -/
theorem view_image : (s.image f).view = s.view.image f := by
  simp only [view, image, View.image, List.map_map]
  rfl

/-! ### The operations of a pool -/

/-- Clock and outcomes do not depend on what a pool works on. -/
@[simp] theorem glance_image : (s.image f).glance = s.glance := by
  simp [glance, image, Function.comp_def]

@[simp] theorem enqueue_image (job : Job) : (s.image f).enqueue job = (s.enqueue job).image f :=
  rfl

@[simp] theorem proceed_image (member : Member) :
    (s.image f).proceed member = (s.proceed member).image f :=
  rfl

@[simp] theorem setTimer_image [Scalar τ] (time : τ) (member : Member) :
    (s.image f).setTimer time member = (s.setTimer time member).image f :=
  rfl

theorem getElem?_image (i : Nat) :
    (s.image f).workers[i]? = (s.workers[i]?).map (Worker.map f.worker) := by
  simp [image]

@[simp] theorem mark_image (i : Nat) (status : Status) :
    (s.image f).mark i status = (s.mark i status).image f := by
  simp only [mark, image]
  rw [map_modify (h := fun w => { w with status })]
  exact fun w _ => rfl

@[simp] theorem raiseStop_image : (s.image f).raiseStop = s.raiseStop.image f := by
  -- Whether a worker waits for the flag does not depend on what it works on.
  have woken (w : Worker κ) :
      (if (w.map f.worker).status = .awaitingStop then { w.map f.worker with status := .ready }
        else w.map f.worker) =
        (if w.status = .awaitingStop then { w with status := .ready } else w).map f.worker := by
    by_cases waiting : w.status = .awaitingStop <;> simp [Worker.map, waiting]
  simp only [raiseStop, image, List.map_map, List.length_map, List.getElem?_map, Option.any_map,
    Function.comp_def, woken]
  rfl

@[simp] theorem hear_image (i : Nat) : (s.image f).hear i = (s.hear i).image f := by
  unfold hear
  rw [attention_image]
  split
  next crew _ =>
    split
    · cases crew.erase i <;> rfl
    · rfl
  · rfl

@[simp] theorem announce_image (i : Nat) : (s.image f).announce i = (s.announce i).image f := by
  unfold announce
  rw [attention_image]
  split
  · split <;> rfl
  · rfl

@[simp] theorem ring_image (member : Member) :
    (s.image f).ring member = (s.ring member).image f := by
  cases member with
  | worker i =>
    simp only [ring, getElem?_image]
    cases s.workers[i]? with
    | none => rfl
    | some w =>
      have status : (w.map f.worker).status = w.status := rfl
      simp only [Option.map_some, status]
      split
      · simp
      · rfl
  | supervisor =>
    simp only [ring, attention_image]
    cases s.attention <;> rfl

@[simp] theorem dismiss_image (i : Nat) : (s.image f).dismiss i = (s.dismiss i).image f := by
  simp only [dismiss, getElem?_image]
  cases found : s.workers[i]? with
  | none => rfl
  | some w =>
    cases standing : w.status <;>
      simp [Worker.map, standing, image, enqueue, List.map_set]

@[simp] theorem dismissSupervisor_image :
    (s.image f).dismissSupervisor = s.dismissSupervisor.image f := by
  simp only [dismissSupervisor, attention_image]
  cases s.attention <;> rfl

@[simp] theorem hire_image (state : κ) :
    (s.image f).hire (f.worker state) = (s.hire state).image f := by
  simp [hire, image, enqueue, Worker.map]

@[simp] theorem finishWorker_image (i : Nat) (outcome : Outcome) :
    (s.image f).finishWorker i outcome = (s.finishWorker i outcome).image f := by
  simp only [finishWorker, mark_image, announce_image]
  rfl

@[simp] theorem pauseWorker_image [Scalar τ] (i : Nat) (pause : Pause τ) :
    (s.image f).pauseWorker i pause = (s.pauseWorker i pause).image f := by
  have same : (s.image f).stop = s.stop := rfl
  cases pause <;> simp only [pauseWorker, same, enqueue_image, proceed_image, mark_image,
    setTimer_image, finishWorker_image]
  all_goals split <;> rfl

@[simp] theorem await_image (crew : List Nat) :
    (s.image f).await crew = (s.await crew).image f := by
  simp only [await, glance_image]
  rfl

@[simp] theorem pauseSupervisor_image [Scalar τ] (order : Order τ) :
    (s.image f).pauseSupervisor order = (s.pauseSupervisor order).image f := by
  cases order with
  | goOn | finish => rfl
  | sleep time =>
    simp only [pauseSupervisor, enqueue_image]
    split <;> rfl
  | wait crew limit =>
    simp only [pauseSupervisor, enqueue_image, await_image]
    split
    · rfl
    · cases limit <;> rfl

/-- A fold of operations that agree with the maps agrees with them. -/
theorem foldl_image {α β : Type} (into : α → β) (one : State τ ω σ κ → α → State τ ω σ κ)
    (other : State τ ω' σ' κ' → β → State τ ω' σ' κ')
    (same : ∀ s a, other (image f s) (into a) = (one s a).image f) (xs : List α) :
    (xs.map into).foldl other (s.image f) = (xs.foldl one s).image f := by
  induction xs generalizing s with
  | nil => rfl
  | cons a rest ih => rw [List.map_cons, List.foldl_cons, List.foldl_cons, same, ih]

theorem foldl_hire_image (states : List κ) :
    (states.map f.worker).foldl hire (s.image f) = (states.foldl hire s).image f :=
  s.foldl_image f f.worker hire hire (fun s => s.hire_image f) states

theorem foldl_dismiss_image (crew : List Nat) :
    crew.foldl dismiss (s.image f) = (crew.foldl dismiss s).image f := by
  simpa using s.foldl_image f id dismiss dismiss (fun s => s.dismiss_image f) crew

theorem raiseStop_image_if (raised : Bool) :
    (if raised then (s.image f).raiseStop else s.image f) =
      (if raised then s.raiseStop else s).image f := by
  cases raised <;> simp

/-- A worker that took its turn, before the flag and the interrupt. -/
def resumed (s : State τ ω σ κ) (i : Nat) (w : Worker κ) (turn : Turn τ ω κ) : State τ ω σ κ :=
  let awake := if w.dismissed then s.clearTimers (.worker i) else s
  { awake with
    world := turn.world
    workers := s.workers.set i { w with state := turn.state, dismissed := false } }

theorem resumed_image (i : Nat) (w : Worker κ) (turn : Turn τ ω κ) :
    (s.image f).resumed i (w.map f.worker) (f.turn turn) = (s.resumed i w turn).image f := by
  cases dismissed : w.dismissed <;>
    simp [resumed, Worker.map, dismissed, image, clearTimers, List.map_set, Translation.turn]

/-- A worker in its turn. -/
theorem turned_image (i : Nat) (w : Worker κ) (turn : Turn τ ω κ) :
    turned (s.image f) i (w.map f.worker) (f.turn turn) = (turned s i w turn).image f := by
  -- A turn is what the worker resumes, and then the flag and the interrupt, which know no worker.
  have split_ {ω σ κ : Type} (s : State τ ω σ κ) (w : Worker κ) (turn : Turn τ ω κ) :
      turned s i w turn =
        let stopped := if turn.stop then (s.resumed i w turn).raiseStop else s.resumed i w turn
        if turn.interrupt then stopped.enqueue .interrupt else stopped := rfl
  have stop : (f.turn turn).stop = turn.stop := rfl
  have interrupt : (f.turn turn).interrupt = turn.interrupt := rfl
  simp only [split_, resumed_image, stop, interrupt, raiseStop_image_if, enqueue_image]
  cases turn.interrupt <;> rfl

/-- The supervisor in its turn. -/
theorem commanded_image (c : Command τ ω σ κ) :
    commanded (s.image f) (f.command c) = (commanded s c).image f := by
  have moved : ({ s.image f with
        world := f.world c.world, supervisor := f.supervisor c.state } : State τ ω' σ' κ') =
      ({ s with world := c.world, supervisor := c.state } : State τ ω σ κ).image f := rfl
  simp only [commanded, Translation.command, moved, foldl_hire_image, raiseStop_image_if,
    foldl_dismiss_image]

end State

/-! ### Turns -/

section Turns

variable {f : Translation ω σ κ ω' σ' κ'} {sys : System τ ω σ κ} {sys' : System τ ω' σ' κ'}
  (respects : f.Respects sys sys') (s : State τ ω σ κ)
include respects

/-- A worker at the same place takes the same turn. -/
theorem runWorker_image [Scalar τ] (i : Nat) :
    runWorker sys' (s.image f) i = (runWorker sys s i).image f := by
  cases found : s.workers[i]? with
  | none => simp [runWorker, s.getElem?_image f, found]
  | some w =>
    have found' : (s.image f).workers[i]? = some (w.map f.worker) := by
      rw [s.getElem?_image f, found, Option.map_some]
    have worked := respects.work s.glance s.world w.state
      (if w.dismissed then .dismissed else .elapsed)
    -- The other system is asked with what it sees, which is the same glance.
    have worked' : sys'.work (s.image f).glance (s.image f).world (w.map f.worker).state
        (if (w.map f.worker).dismissed then .dismissed else .elapsed) =
        f.turn (sys.work s.glance s.world w.state
          (if w.dismissed then .dismissed else .elapsed)) := by
      rw [s.glance_image f]
      exact worked
    rw [runWorker_of_found sys found, runWorker_of_found sys' found', worked', s.turned_image f]
    exact State.pauseWorker_image f _ i _

/-- Both supervisors take the same turn. -/
theorem runSupervisor_image [Scalar τ] :
    runSupervisor sys' (s.image f) = (runSupervisor sys s).image f := by
  -- A supervisor that was given up does not get to its turn.
  cases kept : s.givenUp with
  | true =>
    have kept' : (s.image f).givenUp = true := kept
    have gaveUp : sys'.giveUp (s.image f).world (s.image f).supervisor =
        f.world (sys.giveUp s.world s.supervisor) := respects.giveUp _ _
    simp only [runSupervisor, kept, kept', if_true, gaveUp]
    rfl
  | false =>
    have kept' : (s.image f).givenUp = false := kept
    have supervised : sys'.supervise (s.image f).glance (s.image f).world (s.image f).supervisor =
        f.command (sys.supervise s.glance s.world s.supervisor) := by
      rw [s.glance_image f]
      exact respects.supervise _ _ _
    rw [runSupervisor_of_kept sys kept, runSupervisor_of_kept sys' kept', supervised,
      s.commanded_image f]
    exact State.pauseSupervisor_image f _ _

/-- A signal does the same to both. -/
theorem runInterrupt_image : runInterrupt sys' (s.image f) = (runInterrupt sys s).image f := by
  have interrupted : sys'.interrupted (s.image f).glance (s.image f).world =
      f.world (sys.interrupted s.glance s.world) := by
    rw [s.glance_image f]
    exact respects.interrupted s.glance s.world
  rw [runInterrupt, interrupted, runInterrupt, ← State.raiseStop_image]
  rfl

end Turns

/-! ### Steps -/

section Steps

variable {f : Translation ω σ κ ω' σ' κ'} {sys : System τ ω σ κ} {sys' : System τ ω' σ' κ'}
  [Scalar τ]

/-- Clock and timers begin the same round. -/
theorem beginRound_image (s : State τ ω σ κ) :
    beginRound (s.image f) = (beginRound s).map (State.image f) := by
  have time : nextTime (s.image f) = nextTime s := rfl
  have timers : liveTimers (s.image f) = liveTimers s := rfl
  have queue : (s.image f).queue = s.queue := rfl
  simp only [beginRound, time, timers, queue]
  split <;> rfl

section

variable (respects : f.Respects sys sys')
include respects

/-- Every job does the same in both pools. -/
theorem run_image (s : State τ ω σ κ) (job : Job) :
    run sys' (s.image f) job = (run sys s job).image f := by
  cases job with
  | turn member =>
    cases member with
    | worker i => exact runWorker_image respects s i
    | supervisor => exact runSupervisor_image respects s
  | alarm member => exact s.ring_image f member
  | news i => exact s.hear_image f i
  | interrupt => exact runInterrupt_image respects s
  | close => rfl

/-- Both pools take the same step, or both take none. -/
theorem step_image (s : State τ ω σ κ) :
    step sys' (s.image f) = (step sys s).map (State.image f) := by
  have round : (s.image f).round = s.round := rfl
  have closing : (s.image f).closing = s.closing := rfl
  simp only [step, State.demand_image, round, closing]
  split
  · rfl
  · split
    next job rest _ => exact congrArg some (run_image respects { s with round := rest } job)
    · split
      · rfl
      · exact beginRound_image s

/-- Until they are exhausted both pools do the same. -/
theorem exhaust_image (budget : Nat) (s : State τ ω σ κ) :
    exhaust sys' budget (s.image f) = (exhaust sys budget s).image f := by
  induction budget generalizing s with
  | zero => rfl
  | succ budget ih =>
    -- Both have a next step or both have none.
    rw [exhaust, exhaust, step_image respects]
    cases step sys s with
    | none => rfl
    | some next => exact ih next

/-- Conducted with one budget, both pools come to the same point. -/
theorem conduct_image (budget : Nat) (s : State τ ω σ κ) :
    conduct sys' budget (s.image f) = (conduct sys budget s).image f := by
  induction budget generalizing s with
  | zero => rfl
  | succ budget ih =>
    rw [conduct, conduct, step_image respects, s.attention_image]
    split
    · rfl
    · cases step sys s with
      | none => rfl
      | some next => exact ih next

/-- Who is left is dismissed in the same rounds. -/
theorem endAll_image (budget rounds : Nat) (s : State τ ω σ κ) :
    endAll sys' budget rounds (s.image f) = (endAll sys budget rounds s).image f := by
  induction rounds generalizing s with
  | zero => rfl
  | succ rounds ih =>
    have ended : allEnded (s.image f) = allEnded s := by
      simp [allEnded, State.image, Function.comp_def]
    have dismissed : dismissAll (s.image f) = (dismissAll s).image f := by
      have length : (s.image f).workers.length = s.workers.length := by simp [State.image]
      simp only [dismissAll, length, State.dismissSupervisor_image, State.foldl_dismiss_image]
    simp only [endAll, ended, dismissed, exhaust_image respects, ih]
    split
    · rfl
    · rw [State.demand_image]
      split <;> rfl

/-- A pool that is wound up is the image of the other. -/
theorem windUp_image (budget rounds : Nat) (s : State τ ω σ κ) :
    windUp sys' budget rounds (s.image f) = (windUp sys budget rounds s).image f := by
  have reopened (t : State τ ω σ κ) : reopen (t.image f) = (reopen t).image f := rfl
  simp only [windUp, exhaust_image respects, reopened, endAll_image respects]
  rfl

/-! ### Every schedule -/

/-- What one pool may do under any schedule the other may do, too. -/
theorem moves_image {s t : State τ ω σ κ} (moves : Moves sys s t) :
    Moves sys' (s.image f) (t.image f) := by
  cases moves with
  | reschedule same =>
    refine .reschedule ?_
    rw [State.view_image, State.view_image, same]
  | worker i w found active =>
    rw [← runWorker_image respects]
    exact .worker i (w.map f.worker) (by rw [s.getElem?_image f, found, Option.map_some]) active
  | supervisor working =>
    rw [← runSupervisor_image respects]
    exact .supervisor working
  | interrupt taken =>
    rw [← runInterrupt_image respects]
    refine .interrupt ?_
    rw [State.view_image, State.view_image, taken]
    rfl

end

end Steps

end Pool

end Volley
