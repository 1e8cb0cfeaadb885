import Volley.Pool

/-!
# What no schedule touches

The clock, the queues and the timers of a pool decide who takes the next turn and when. All the rest
of it is its view: the world, the stop flag, the supervisor, how every worker stands, and how many
interrupts are queued. Every operation of a pool acts on its view in a way that depends on the view
alone, so whoever argues about views need not know the schedule.

## Main definitions

- `Pool.Standing`, `Pool.View`, `Pool.State.view`.
- `Pool.View.afterTurn`, `Pool.View.afterCommand`: what a turn and a command make of a view.
- `Pool.turned`, `Pool.commanded`: turns of a worker and of the supervisor up to their pause.

## Main results

- `related_turned`, `related_commanded`: what holds of each thing that is done before a pause.
- `view_runWorker`, `view_runSupervisor`, `view_runInterrupt`: turns act on views.
- `view_ring`, `view_hear`, `view_beginRound`: the rest of the schedule does not.
-/

namespace Volley

namespace Pool

/-! ### Lists changed in one place -/

/-- A change that fixes the item at its place changes nothing. -/
theorem modify_of_fixed {α : Type} {f : α → α} {i : Nat} {xs : List α}
    (fixed : ∀ x, xs[i]? = some x → f x = x) : xs.modify i f = xs := by
  apply List.ext_getElem?
  intro j
  rw [List.getElem?_modify]
  by_cases here : i = j
  · subst here
    cases found : xs[i]? with
    | none => rfl
    | some x => simp [fixed x found]
  · simp [here]

/-- To change what has just been set is to set the changed item. -/
theorem modify_set_self {α : Type} (f : α → α) (xs : List α) (i : Nat) (x : α) :
    (xs.set i x).modify i f = xs.set i (f x) := by
  induction xs generalizing i with
  | nil => simp
  | cons y rest ih =>
    cases i with
    | zero => simp
    | succ i => simp [ih i]

/-- What a place of a list adds to what the items give does not depend on the others. -/
theorem flatMap_set_perm {α ν : Type} {xs : List α} {i : Nat} {x : α} (found : xs[i]? = some x)
    (f : α → List ν) : ∃ rest, (xs.flatMap f).Perm (f x ++ rest) ∧
      ∀ y, ((xs.set i y).flatMap f).Perm (f y ++ rest) := by
  obtain ⟨inside, rfl⟩ := List.getElem?_eq_some_iff.mp found
  refine ⟨(xs.take i ++ xs.drop (i + 1)).flatMap f, ?_⟩
  -- Up to the order, the item of the place comes first and the others follow.
  have placed (y : α) : ((xs.set i y).flatMap f).Perm
      (f y ++ (xs.take i ++ xs.drop (i + 1)).flatMap f) := by
    rw [List.set_eq_take_append_cons_drop, if_pos inside]
    simp only [List.flatMap_append, List.flatMap_cons]
    exact List.perm_append_comm_assoc _ _ _
  have itself := placed xs[i]
  rw [List.set_getElem_self] at itself
  exact ⟨itself, placed⟩

/-- A change of one item goes through a map that knows it. -/
theorem map_modify {α β : Type} {f : α → β} {g : α → α} {h : β → β} {i : Nat} {xs : List α}
    (same : ∀ x, xs[i]? = some x → f (g x) = h (f x)) :
    (xs.modify i g).map f = (xs.map f).modify i h := by
  apply List.ext_getElem?
  intro j
  rw [List.getElem?_map, List.getElem?_modify, List.getElem?_modify, List.getElem?_map]
  -- Only the place that is changed can differ.
  by_cases here : i = j
  · subst here
    cases found : xs[i]? with
    | none => rfl
    | some x => simp [same x found]
  · simp [here]

/-- A job of another kind does not come among these. -/
theorem count_map_of_ne {α : Type} {f : α → Job} {job : Job} (other : ∀ a, f a ≠ job)
    (xs : List α) : (xs.map f).count job = 0 := by
  apply List.count_eq_zero.mpr
  intro member
  obtain ⟨a, -, same⟩ := List.mem_map.mp member
  exact other a same

/-! ### Views -/

/-- How a worker stands, whatever it waits for. -/
structure Standing (κ : Type) where
  state : κ
  dismissed : Bool
  outcome : Option Outcome

/-- How a worker has ended, if it has. -/
def Status.outcome? : Status → Option Outcome
  | .ended outcome => some outcome
  | _ => none

def Worker.standing {κ : Type} (w : Worker κ) : Standing κ :=
  { state := w.state, dismissed := w.dismissed, outcome := w.outcome? }

/-- Whoever has ended cannot be dismissed. -/
def Standing.dismiss {κ : Type} (standing : Standing κ) : Standing κ :=
  if standing.outcome.isSome then standing else { standing with dismissed := true }

def dismissAt {κ : Type} (crew : List (Standing κ)) (i : Nat) : List (Standing κ) :=
  crew.modify i Standing.dismiss

/-- How a worker stands before its first turn. -/
def fresh {κ : Type} (state : κ) : Standing κ :=
  { state, dismissed := false, outcome := none }

/-- The states of the workers and how they have ended, without what awaits them. -/
def roster {κ : Type} (crew : List (Standing κ)) : List (κ × Option Outcome) :=
  crew.map fun standing => (standing.state, standing.outcome)

def Pause.outcome? {τ : Type} : Pause τ → Option Outcome
  | .finish outcome => some outcome
  | _ => none

def Order.finishes {τ : Type} : Order τ → Bool
  | .finish => true
  | _ => false

def Attention.isFinished : Attention → Bool
  | .finished => true
  | _ => false

/-- The part of a pool that no schedule touches. -/
structure View (ω σ κ : Type) where
  world : ω
  stop : Bool
  supervisor : σ
  crew : List (Standing κ)
  givenUp : Bool
  finished : Bool
  interrupts : Nat

namespace View

variable {τ ω σ κ : Type}

/-- A turn moves its worker on and may end it, raise the flag and queue an interrupt. -/
def afterTurn (v : View ω σ κ) (i : Nat) (turn : Turn τ ω κ) : View ω σ κ :=
  { v with
    world := turn.world
    stop := v.stop || turn.stop
    crew := v.crew.set i
      { state := turn.state, dismissed := false, outcome := turn.pause.outcome? }
    interrupts := if turn.interrupt then v.interrupts + 1 else v.interrupts }

/-- A command hires before it dismisses, so it can dismiss those whom it hires. -/
def afterCommand (v : View ω σ κ) (command : Command τ ω σ κ) : View ω σ κ :=
  { v with
    world := command.world
    supervisor := command.state
    stop := v.stop || command.stop
    crew := command.dismiss.foldl dismissAt (v.crew ++ command.hire.map fresh)
    finished := command.order.finishes }

/-- Only hiring makes a crew larger. -/
theorem length_afterCommand (v : View ω σ κ) (command : Command τ ω σ κ) :
    (v.afterCommand command).crew.length = v.crew.length + command.hire.length := by
  have same (ids : List Nat) (crew : List (Standing κ)) :
      (ids.foldl dismissAt crew).length = crew.length := by
    induction ids generalizing crew with
    | nil => rfl
    | cons i rest ih => exact (ih _).trans (List.length_modify _ _ _)
  simp [afterCommand, same]

end View

section Roster

variable {κ : Type}

/-- A dismissal is not seen on the roster. -/
theorem roster_dismissAt (crew : List (Standing κ)) (i : Nat) :
    roster (dismissAt crew i) = roster crew := by
  have same : roster (crew.modify i Standing.dismiss) = (roster crew).modify i id := by
    apply map_modify
    intro standing _
    unfold Standing.dismiss
    split <;> rfl
  exact same.trans (List.modify_id i _)

theorem roster_foldl_dismissAt (ids : List Nat) (crew : List (Standing κ)) :
    roster (ids.foldl dismissAt crew) = roster crew := by
  induction ids generalizing crew with
  | nil => rfl
  | cons i rest ih => exact (ih _).trans (roster_dismissAt crew i)

end Roster

namespace State

variable {τ ω σ κ : Type}

/-- The jobs of the round, and those of the next one behind them. -/
def jobs (s : State τ ω σ κ) : List Job :=
  s.round ++ s.queue

/-- What no schedule touches. -/
def view (s : State τ ω σ κ) : View ω σ κ :=
  { world := s.world
    stop := s.stop
    supervisor := s.supervisor
    crew := s.workers.map Worker.standing
    givenUp := s.givenUp
    finished := s.attention.isFinished
    interrupts := s.jobs.count .interrupt }

/-! ### Operations that a view does not show -/

theorem count_jobs (s : State τ ω σ κ) (job : Job) :
    s.jobs.count job = s.round.count job + s.queue.count job := by
  simp [jobs]

theorem view_enqueue (s : State τ ω σ κ) {job : Job} (other : job ≠ .interrupt) :
    (s.enqueue job).view = s.view := by
  simp [view, enqueue, count_jobs, other]

theorem view_enqueue_interrupt (s : State τ ω σ κ) :
    (s.enqueue .interrupt).view = { s.view with interrupts := s.view.interrupts + 1 } := by
  simp [view, enqueue, count_jobs, Nat.add_assoc]

@[simp] theorem view_proceed (s : State τ ω σ κ) (member : Member) :
    (s.proceed member).view = s.view := by
  simp [view, proceed, count_jobs]

@[simp] theorem view_setTimer [Scalar τ] (s : State τ ω σ κ) (time : τ) (member : Member) :
    (s.setTimer time member).view = s.view := rfl

@[simp] theorem view_clearTimers (s : State τ ω σ κ) (member : Member) :
    (s.clearTimers member).view = s.view := by
  simp [view, clearTimers, count_jobs, List.count_filter]

theorem view_rouse (s : State τ ω σ κ) (working : s.attention.isFinished = false) :
    s.rouse.view = s.view := by
  -- With the timers their alarms are cleared, and those are no interrupts.
  rw [rouse, view_enqueue _ (by simp)]
  have cleared := congrArg View.interrupts (s.view_clearTimers .supervisor)
  simp only [view] at cleared
  simp only [view, View.mk.injEq]
  exact ⟨rfl, rfl, rfl, rfl, rfl, working.symm, cleared⟩

/-- To hear news is a matter of the schedule. -/
theorem view_hear (s : State τ ω σ κ) (i : Nat) : (s.hear i).view = s.view := by
  unfold hear
  split
  next crew awaiting =>
    split
    · split
      · exact s.view_rouse (by rw [awaiting]; rfl)
      · simp [view, awaiting, jobs, Attention.isFinished]
    · rfl
  · rfl

theorem view_announce (s : State τ ω σ κ) (i : Nat) : (s.announce i).view = s.view := by
  unfold announce
  split
  · split
    · exact s.view_enqueue (by simp)
    · rfl
  · rfl

/-- A status is seen as the end of a worker or not at all. -/
theorem view_mark (s : State τ ω σ κ) (i : Nat) (status : Status) :
    (s.mark i status).view =
      { s.view with
        crew := s.view.crew.modify i fun standing =>
          { standing with outcome := status.outcome? } } := by
  have same : (s.mark i status).workers.map Worker.standing =
      (s.workers.map Worker.standing).modify i fun standing =>
        { standing with outcome := status.outcome? } :=
    map_modify fun w _ => rfl
  simp only [view, same]
  rfl

/-- An alarm is a matter of the schedule. -/
theorem view_ring (s : State τ ω σ κ) (member : Member) : (s.ring member).view = s.view := by
  unfold ring
  split
  next i =>
    split
    next w found =>
      split
      next resting =>
        rw [view_enqueue _ (by simp), view_mark]
        -- Who rests has not ended, so waking it does not show.
        have fixed : s.view.crew.modify i (fun standing => { standing with outcome := none }) =
            s.view.crew := by
          apply modify_of_fixed
          simp [view, found, Worker.standing, Worker.outcome?, resting]
        exact congrArg (fun crew => { s.view with crew }) fixed
      · rfl
    · rfl
  next =>
    split
    next asleep => exact s.view_rouse (by rw [asleep]; rfl)
    next awaiting => exact s.view_rouse (by rw [awaiting]; rfl)
    · rfl
    · rfl

/-- Who waits has not finished. -/
theorem view_await (s : State τ ω σ κ) (crew : List Nat) :
    (s.await crew).view = { s.view with finished := false } := by
  have news (ids : List Nat) : (ids.map Job.news).count .interrupt = 0 :=
    count_map_of_ne nofun ids
  simp [view, await, count_jobs, news, Attention.isFinished]

/-! ### Operations that a view shows -/

/-- That the flag is raised is seen, but not who was waiting for it. -/
theorem view_raiseStop (s : State τ ω σ κ) :
    s.raiseStop.view = { s.view with stop := true } := by
  have turns (ids : List Nat) : (ids.map fun i => Job.turn (.worker i)).count .interrupt = 0 :=
    count_map_of_ne nofun ids
  -- Whoever waited for the flag becomes ready, and that does not show.
  have same : s.raiseStop.workers.map Worker.standing = s.workers.map Worker.standing := by
    simp only [raiseStop, List.map_map]
    apply List.map_congr_left
    intro w _
    by_cases waiting : w.status = .awaitingStop <;>
      simp [Worker.standing, Worker.outcome?, waiting]
  simp only [view, same]
  simp [raiseStop, count_jobs, turns]

/-- Who is hired comes last, and is fresh. -/
theorem view_hire (s : State τ ω σ κ) (state : κ) :
    (s.hire state).view = { s.view with crew := s.view.crew ++ [fresh state] } := by
  rw [hire, view_enqueue _ (by simp)]
  simp [view, fresh, Worker.standing, Worker.outcome?, jobs]

/-- A dismissal is seen as that of the worker, whatever the worker waited for. -/
theorem view_dismiss (s : State τ ω σ κ) (i : Nat) :
    (s.dismiss i).view = { s.view with crew := dismissAt s.view.crew i } := by
  -- Except where nobody is to be dismissed, one worker takes the place of another, and only its
  -- standing is changed.
  have replaced (w : Worker κ) (found : s.workers[i]? = some w) (w' : Worker κ)
      (changed : w'.standing = w.standing.dismiss) :
      (s.workers.set i w').map Worker.standing =
        (s.workers.map Worker.standing).modify i Standing.dismiss := by
    apply List.ext_getElem?
    intro j
    rw [List.getElem?_map, List.getElem?_modify, List.getElem?_map]
    by_cases here : i = j
    · subst here
      obtain ⟨inside, rfl⟩ := List.getElem?_eq_some_iff.mp found
      simp [changed, inside]
    · simp [here]
  unfold dismiss
  split
  next missing =>
    have outside : s.workers.length ≤ i := List.getElem?_eq_none_iff.mp missing
    simp [view, dismissAt, List.modify_eq_self, outside]
  next w found =>
    split
    next outcome ended =>
      simp only [view, dismissAt, View.mk.injEq, true_and, and_true]
      have same : w.standing = w.standing.dismiss := by
        simp [Standing.dismiss, Worker.standing, Worker.outcome?, ended]
      rw [← replaced w found w same]
      obtain ⟨inside, rfl⟩ := List.getElem?_eq_some_iff.mp found
      simp
    next ready =>
      simp only [view, dismissAt, View.mk.injEq, true_and]
      refine ⟨replaced w found _ ?_, rfl⟩
      simp [Standing.dismiss, Worker.standing, Worker.outcome?, ready]
    all_goals
      next pausing =>
        rw [view_enqueue _ (by simp)]
        simp only [view, dismissAt, View.mk.injEq, true_and]
        refine ⟨replaced w found _ ?_, rfl⟩
        simp [Standing.dismiss, Worker.standing, Worker.outcome?, pausing]

/-- A supervisor that has not finished is given up when it is dismissed. -/
theorem view_dismissSupervisor (s : State τ ω σ κ) :
    s.dismissSupervisor.view =
      if s.view.finished then s.view else { s.view with givenUp := true } := by
  unfold dismissSupervisor
  split
  next done => simp [view, done, Attention.isFinished]
  next ready => simp [view, ready, jobs, Attention.isFinished]
  all_goals
    next waiting =>
      rw [view_rouse _ (by simp [waiting, Attention.isFinished])]
      simp [view, waiting, jobs, Attention.isFinished]

theorem view_foldl_hire (states : List κ) (s : State τ ω σ κ) :
    (states.foldl hire s).view = { s.view with crew := s.view.crew ++ states.map fresh } := by
  induction states generalizing s with
  | nil => simp
  | cons state rest ih => rw [List.foldl_cons, ih, view_hire]; simp

theorem view_foldl_dismiss (ids : List Nat) (s : State τ ω σ κ) :
    (ids.foldl State.dismiss s).view =
      { s.view with crew := ids.foldl dismissAt s.view.crew } := by
  induction ids generalizing s with
  | nil => rfl
  | cons i rest ih => rw [List.foldl_cons, ih, view_dismiss, List.foldl_cons]

/-- A pause of a worker that has not ended shows at most by ending it. -/
theorem view_pauseWorker [Scalar τ] (s : State τ ω σ κ) (i : Nat) (pause : Pause τ)
    (active : ∀ standing, s.view.crew[i]? = some standing → standing.outcome = none) :
    (s.pauseWorker i pause).view =
      { s.view with
        crew := s.view.crew.modify i fun standing =>
          { standing with outcome := pause.outcome? } } := by
  -- As the worker has not ended, a status that does not end it leaves its standing alone.
  have fixed : s.view.crew.modify i (fun standing => { standing with outcome := none }) =
      s.view.crew := by
    apply modify_of_fixed
    intro standing found
    rw [← active standing found]
  have unchanged : s.view = { s.view with
      crew := s.view.crew.modify i fun standing => { standing with outcome := none } } :=
    congrArg (fun crew => { s.view with crew }) fixed.symm
  unfold pauseWorker
  split
  next => exact (s.view_proceed _).trans unchanged
  next time =>
    split
    · exact (s.view_enqueue (by simp)).trans unchanged
    · exact (view_setTimer _ _ _).trans (s.view_mark i .resting)
  next =>
    split
    · exact (s.view_proceed _).trans unchanged
    · exact s.view_mark i .awaitingStop
  next => exact s.view_mark i .resting
  next outcome => exact (view_announce _ i).trans (s.view_mark i (.ended outcome))

/-- A pause of the supervisor shows only whether it has finished. -/
theorem view_pauseSupervisor [Scalar τ] (s : State τ ω σ κ) (order : Order τ)
    (working : s.view.finished = false) :
    (s.pauseSupervisor order).view = { s.view with finished := order.finishes } := by
  have unchanged : { s.view with finished := false } = s.view := by
    rw [← working]
  unfold pauseSupervisor
  split
  next => exact (s.view_proceed _).trans unchanged.symm
  next time =>
    split
    · exact (s.view_enqueue (by simp)).trans unchanged.symm
    · rw [view_setTimer]
      simp [view, jobs, Order.finishes, Attention.isFinished]
  next crew limit =>
    -- It goes on at once if there is nobody to wait for, and else it waits, perhaps with an alarm.
    split
    · exact (s.view_enqueue (by simp)).trans unchanged.symm
    · split
      · exact s.view_await crew
      · rw [view_setTimer]
        exact s.view_await crew
  next =>
    rw [view_enqueue _ (by simp)]
    simp [view, jobs, Order.finishes, Attention.isFinished]

end State

/-! ### Turns -/

variable {τ ω σ κ : Type}

theorem view_raiseStop_if (s : State τ ω σ κ) (stop : Bool) :
    (if stop then s.raiseStop else s).view = { s.view with stop := s.view.stop || stop } := by
  cases stop with
  | true => simp [State.view_raiseStop]
  | false => simp

theorem view_interrupt_if (s : State τ ω σ κ) (interrupt : Bool) :
    (if interrupt then s.enqueue .interrupt else s).view =
      { s.view with
        interrupts := if interrupt then s.view.interrupts + 1 else s.view.interrupts } := by
  cases interrupt with
  | true => simp [State.view_enqueue_interrupt]
  | false => simp

/-- What is seen of a worker that has moved on, before all else that it does in its turn. -/
theorem view_moved (s awake : State τ ω σ κ) (i : Nat) (w : Worker κ) (world : ω) (state : κ)
    (awake_view : awake.view = s.view) (active : w.outcome? = none) :
    { awake with
      world := world
      workers := s.workers.set i { w with state := state, dismissed := false } }.view =
    { s.view with
      world := world
      crew := s.view.crew.set i (fresh state) } := by
  have standing : Worker.standing { w with state := state, dismissed := false } =
      fresh state := by
    simp only [Worker.standing, fresh, Standing.mk.injEq, true_and]
    exact active
  simp only [← awake_view]
  simp only [State.view, List.map_set, standing]
  have crew := congrArg View.crew awake_view
  simp only [State.view] at crew
  rw [crew]
  rfl

/-- A worker in its turn, before it pauses: it has moved on, raised the flag and queued an
interrupt. A dismissed worker has lost its timers. -/
def turned (s : State τ ω σ κ) (i : Nat) (w : Worker κ) (turn : Turn τ ω κ) : State τ ω σ κ :=
  let awake := if w.dismissed then s.clearTimers (.worker i) else s
  let moved :=
    { awake with
      world := turn.world
      workers := s.workers.set i { w with state := turn.state, dismissed := false } }
  let stopped := if turn.stop then moved.raiseStop else moved
  if turn.interrupt then stopped.enqueue .interrupt else stopped

/-- The supervisor in its turn, before it pauses: it has moved on, hired, raised the flag and
dismissed. -/
def commanded (s : State τ ω σ κ) (command : Command τ ω σ κ) : State τ ω σ κ :=
  let moved := { s with world := command.world, supervisor := command.state }
  let hired := command.hire.foldl State.hire moved
  let stopped := if command.stop then hired.raiseStop else hired
  command.dismiss.foldl State.dismiss stopped

theorem runWorker_of_found [Scalar τ] (sys : System τ ω σ κ) {s : State τ ω σ κ} {i : Nat}
    {w : Worker κ} (found : s.workers[i]? = some w) :
    runWorker sys s i =
      (turned s i w (sys.work s.glance s.world w.state
        (if w.dismissed then .dismissed else .elapsed))).pauseWorker i
        (sys.work s.glance s.world w.state
          (if w.dismissed then .dismissed else .elapsed)).pause := by
  rw [runWorker, found]
  rfl

theorem runSupervisor_of_kept [Scalar τ] (sys : System τ ω σ κ) {s : State τ ω σ κ}
    (kept : s.givenUp = false) :
    runSupervisor sys s =
      (commanded s (sys.supervise s.glance s.world s.supervisor)).pauseSupervisor
        (sys.supervise s.glance s.world s.supervisor).order := by
  rw [runSupervisor, if_neg (by simp [kept])]
  rfl

/-- A preorder of pools that holds of each thing that a worker may do before it pauses holds of all
of them together. -/
theorem related_turned {R : State τ ω σ κ → State τ ω σ κ → Prop} (refl : ∀ t, R t t)
    (trans : ∀ {t u v}, R t u → R u v → R t v) (s : State τ ω σ κ) (i : Nat) (w : Worker κ)
    (turn : Turn τ ω κ) (cleared : R s (s.clearTimers (.worker i)))
    (moved : ∀ t : State τ ω σ κ, t.workers = s.workers → R t
      { t with
        world := turn.world
        workers := t.workers.set i { w with state := turn.state, dismissed := false } })
    (raised : ∀ t, R t t.raiseStop) (interrupted : ∀ t, R t (t.enqueue .interrupt)) :
    R s (turned s i w turn) := by
  have awake : R s (if w.dismissed then s.clearTimers (.worker i) else s) ∧
      (if w.dismissed then s.clearTimers (.worker i) else s).workers = s.workers := by
    split
    · exact ⟨cleared, rfl⟩
    · exact ⟨refl s, rfl⟩
  have moved := trans awake.1 (moved _ awake.2)
  rw [awake.2] at moved
  have stopped (t : State τ ω σ κ) (before : R s t) :
      R s (if turn.stop then t.raiseStop else t) := by
    split
    · exact trans before (raised t)
    · exact before
  unfold turned
  dsimp only
  split
  · exact trans (stopped _ moved) (interrupted _)
  · exact stopped _ moved

/-- A preorder that holds of each step of a fold holds of the whole. -/
theorem related_foldl {α β : Type} {R : β → β → Prop} (refl : ∀ b, R b b)
    (trans : ∀ {a b c}, R a b → R b c → R a c) {f : β → α → β} (step : ∀ b a, R b (f b a))
    (xs : List α) (b : β) : R b (xs.foldl f b) := by
  apply List.foldlRecOn (motive := R b) xs f (refl b)
  intro c before a _
  exact trans before (step c a)

/-- A preorder of pools that holds of each thing that the supervisor may do before it pauses holds
of all of them together. -/
theorem related_commanded {R : State τ ω σ κ → State τ ω σ κ → Prop} (refl : ∀ t, R t t)
    (trans : ∀ {t u v}, R t u → R u v → R t v) (s : State τ ω σ κ) (command : Command τ ω σ κ)
    (moved : R s { s with world := command.world, supervisor := command.state })
    (hired : ∀ t state, R t (t.hire state)) (raised : ∀ t, R t t.raiseStop)
    (dismissed : ∀ t i, R t (t.dismiss i)) : R s (commanded s command) := by
  have hired := trans moved (related_foldl refl trans hired command.hire _)
  unfold commanded
  dsimp only
  generalize command.hire.foldl State.hire _ = t at hired
  have stopped : R s (if command.stop then t.raiseStop else t) := by
    split
    · exact trans hired (raised t)
    · exact hired
  exact trans stopped (related_foldl refl trans dismissed command.dismiss _)

/-- A worker in its turn has done all that is seen of it but its pause. -/
theorem view_turned (s : State τ ω σ κ) (i : Nat) (w : Worker κ) (turn : Turn τ ω κ)
    (active : w.outcome? = none) :
    (turned s i w turn).view =
      { s.view.afterTurn i turn with crew := s.view.crew.set i (fresh turn.state) } := by
  have awake_view : (if w.dismissed then s.clearTimers (.worker i) else s).view = s.view := by
    split
    · exact s.view_clearTimers _
    · rfl
  unfold turned
  rw [view_interrupt_if, view_raiseStop_if,
    view_moved s _ i w turn.world turn.state awake_view active]
  rfl

/-- The supervisor in its turn has done all that is seen of it but its pause. -/
theorem view_commanded (s : State τ ω σ κ) (command : Command τ ω σ κ) :
    (commanded s command).view =
      { s.view.afterCommand command with finished := s.view.finished } := by
  unfold commanded
  rw [State.view_foldl_dismiss, view_raiseStop_if, State.view_foldl_hire]
  rfl

/-- A turn of a worker is seen as what its work makes of the view. -/
theorem view_runWorker [Scalar τ] (sys : System τ ω σ κ) (s : State τ ω σ κ) (i : Nat)
    (w : Worker κ) (found : s.workers[i]? = some w) (active : w.outcome? = none) :
    (runWorker sys s i).view =
      s.view.afterTurn i
        (sys.work s.glance s.world w.state (if w.dismissed then .dismissed else .elapsed)) := by
  rw [runWorker_of_found sys found]
  generalize sys.work s.glance s.world w.state _ = turn
  -- What the worker did before shows first, and then its pause.
  rw [State.view_pauseWorker, view_turned s i w turn active]
  · simp only [View.afterTurn, modify_set_self, fresh]
  · rw [view_turned s i w turn active]
    intro standing placed
    have inside : i < s.view.crew.length := by
      simpa [State.view] using (List.getElem?_eq_some_iff.mp found).1
    rw [List.getElem?_set_self inside, Option.some.injEq] at placed
    rw [← placed, fresh]

/-- A supervisor that has not been dismissed carries out its command. -/
theorem view_runSupervisor [Scalar τ] (sys : System τ ω σ κ) (s : State τ ω σ κ)
    (kept : s.givenUp = false) (working : s.view.finished = false) :
    (runSupervisor sys s).view =
      s.view.afterCommand (sys.supervise s.glance s.world s.supervisor) := by
  rw [runSupervisor_of_kept sys kept, State.view_pauseSupervisor, view_commanded]
  · rfl
  · rw [view_commanded]
    exact working

/-- A supervisor that was dismissed gives its work up instead, and has finished. -/
theorem view_runSupervisor_of_givenUp [Scalar τ] (sys : System τ ω σ κ) (s : State τ ω σ κ)
    (dismissed : s.givenUp = true) :
    (runSupervisor sys s).view =
      { s.view with
        world := sys.giveUp s.world s.supervisor
        finished := true
        givenUp := false } := by
  unfold runSupervisor
  rw [if_pos dismissed]
  rfl

/-- A new round takes over what was queued; the alarms that come to it do not show. -/
theorem view_beginRound [Scalar τ] (s t : State τ ω σ κ) (done : s.round = [])
    (begun : beginRound s = some t) : t.view = s.view := by
  -- All that a round adds to the queue are alarms.
  have alarms (timers : List (Timer τ)) :
      (timers.map fun timer => Job.alarm timer.member).count .interrupt = 0 :=
    count_map_of_ne nofun timers
  unfold beginRound at begun
  dsimp only at begun
  split at begun
  · cases begun
  next jobs _ =>
    simp only [Option.some.injEq] at begun
    subst begun
    simp [State.view, State.count_jobs, done, alarms]

/-- A signal is seen in the world, and it raises the flag. -/
theorem view_runInterrupt (sys : System τ ω σ κ) (s : State τ ω σ κ) :
    (runInterrupt sys s).view =
      { s.view with world := sys.interrupted s.glance s.world, stop := true } := by
  rw [runInterrupt, State.view_raiseStop]
  rfl

end Pool

end Volley
