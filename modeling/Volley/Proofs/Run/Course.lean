import Mathlib.Algebra.Order.Ring.Rat
import Volley.Proofs.Pool.Schedule
import Volley.Proofs.Run.Commands
import Volley.Scalar.Rational
import Volley.Scenario.Script

/-!
# The course of a run

What can happen to a session at any of its points: somebody takes a turn under whatever schedule, a
signal comes in while it is handled, somebody outside asks for a stop, and a user or the director
itself is dismissed. All of it changes the view of the session in one of four ways, so an invariant
of sessions has four cases.

## Main definitions

- `Run.Happens`, `Run.Reaches`.
- `Run.Changes`: the four ways in which a view changes.
- `Run.Sample`: a small session.

## Main results

- `changes_of_happens`: whatever happens is one of them.
- `kept_of_reaches`: so what they keep holds all the time.
- `reaches_perform`: a session that is carried out reaches its end so.
-/

namespace Volley

namespace Run

open Http Pool

/-- A session at work. -/
abbrev RunState (τ β : Type) := Pool.State τ (World τ) (Director τ) (VirtualUser τ β)

/-- The view of a session. -/
abbrev RunView (τ β : Type) := Pool.View (World τ) (Director τ) (VirtualUser τ β)

variable {τ β : Type}

/-- Somebody outside of the bodies asks for a stop. -/
def askToStop (s : RunState τ β) : RunState τ β :=
  let (stop, world) := s.world.requestStop
  if stop then { s with world }.raiseStop else { s with world }

/-- A request to stop is seen in the world and at the flag. -/
theorem view_askToStop (s : RunState τ β) : (askToStop s).view =
    { s.view with
      world := s.world.requestStop.2
      stop := s.view.stop || s.world.requestStop.1 } :=
  view_raiseStop_if { s with world := s.world.requestStop.2 } s.world.requestStop.1

/-- The roster names the users with their outcomes, place by place. -/
theorem mem_roster {s : RunState τ β} {i : Nat} {user : VirtualUser τ β}
    {outcome : Option Outcome} :
    (roster s.view.crew)[i]? = some (user, outcome) ↔
      ∃ w, s.workers[i]? = some w ∧ w.state = user ∧ w.outcome? = outcome := by
  simp [roster, State.view, Worker.standing]

/-- What can happen to a session. -/
inductive Happens [Scalar τ] (plan : Plan τ) (body : Body τ β) :
    RunState τ β → RunState τ β → Prop
  | moved {s t : RunState τ β} (moves : Moves (system plan body) s t) : Happens plan body s t
  | signalled {s : RunState τ β} (handled : s.world.handling = true) :
      Happens plan body s (s.enqueue .interrupt)
  | asked {s : RunState τ β} : Happens plan body s (askToStop s)
  | dismissed {s : RunState τ β} (i : Nat) : Happens plan body s (s.dismiss i)
  | givenUp {s : RunState τ β} : Happens plan body s s.dismissSupervisor

/-- What a session can come to. -/
abbrev Reaches [Scalar τ] (plan : Plan τ) (body : Body τ β) :
    RunState τ β → RunState τ β → Prop :=
  Relation.ReflTransGen (Happens plan body)

/-- The ways in which the view of a session changes. In all of them the stop flag may be raised. -/
inductive Changes [Scalar τ] (plan : Plan τ) (body : Body τ β) (v v' : RunView τ β) : Prop
  /-- Neither the books nor the users change. -/
  | quiet (untouched : Untouched v.world v'.world) (stop : v.stop = true → v'.stop = true)
      (supervisor : v'.supervisor = v.supervisor) (crew : roster v'.crew = roster v.crew)
  | strode (i : Nat) (user : VirtualUser τ β) (found : (roster v.crew)[i]? = some (user, none))
      (stage : VirtualUser.Stage τ β) (outcome : Option Outcome)
      (stride : Stride body plan.options.iterations v.stop user.vu v.world.books user.stage stage
        v'.world.books outcome)
      (stop : v.stop = true → v'.stop = true) (supervisor : v'.supervisor = v.supervisor)
      (crew : roster v'.crew = (roster v.crew).set i ({ user with stage }, outcome))
  | hired (tasks : v.supervisor.tasks = .run :: v'.supervisor.tasks)
      (reports : v'.supervisor.reports = v.supervisor.reports)
      (untouched : Untouched v.world v'.world) (stop : v.stop = true → v'.stop = true)
      (crew : roster v'.crew = roster v.crew ++
        (List.range (min plan.options.vus plan.options.iterations)).map
          fun vu => ((⟨vu, .outside⟩ : VirtualUser τ β), none))
      (phase : ∃ start, v'.supervisor.phase = .watching start)
  | directed (tasks : v'.supervisor.tasks = v.supervisor.tasks ∨
        ∃ task, task ≠ .run ∧ v.supervisor.tasks = task :: v'.supervisor.tasks)
      (phase : ∀ start, v'.supervisor.phase ≠ .watching start)
      (reports : v'.supervisor.reports = v.supervisor.reports ∨
        ∃ report, v'.supervisor.reports = report :: v.supervisor.reports ∧
          ∀ result, report.ending = .result result → Completes plan v.world report result)
      (untouched : Untouched v.world v'.world) (stop : v.stop = true → v'.stop = true)
      (crew : roster v'.crew = roster v.crew)
      (shuts : v'.supervisor.phase.shutsDown = true →
        v'.stop = true ∨ v.supervisor.phase.shutsDown = true)

section

variable [Scalar τ] (plan : Plan τ) (body : Body τ β)

/-- The flag stays raised. -/
theorem Changes.stop {v v' : RunView τ β} (changes : Changes plan body v v') :
    v.stop = true → v'.stop = true := by
  cases changes <;> assumption

/-- What is not seen changes nothing. -/
theorem changes_of_same {v v' : RunView τ β} (same : v' = v) : Changes plan body v v' := by
  subst same
  exact .quiet (.refl _) id rfl rfl

/-- A turn of a worker is a stride of its user. -/
theorem changes_work (s : RunState τ β) (i : Nat) (w : Worker (VirtualUser τ β))
    (found : s.workers[i]? = some w) (active : w.outcome? = none) :
    Changes plan body s.view (runWorker (system plan body) s i).view := by
  rw [view_runWorker _ s i w found active]
  -- The outcome of its pause is that of its stride.
  obtain ⟨vu, stride⟩ := stride_work plan body s.glance s.world w.state
    (if w.dismissed then .dismissed else .elapsed)
  refine .strode i w.state ?_ _ _ stride ?_ rfl ?_
  · simp [roster, State.view, found, Worker.standing, active]
  · intro raised
    exact Bool.or_eq_true_iff.mpr (.inl raised)
  · simp only [roster, View.afterTurn, List.map_set]
    rw [← vu]
    rfl

/-- A turn of the director begins the run, or goes on without hiring anybody. -/
theorem changes_supervise (s : RunState τ β) (working : s.view.finished = false) :
    Changes plan body s.view (runSupervisor (system plan body) s).view := by
  cases dismissed : s.givenUp with
  | true =>
    -- A director that was given up only takes its handlers away.
    rw [view_runSupervisor_of_givenUp _ s dismissed]
    exact .quiet (untouched_giveUp plan s.world s.supervisor) id rfl rfl
  | false =>
    rw [view_runSupervisor _ s dismissed working]
    -- What was raised stays so: a command can only raise the flag.
    have stop {flag : Bool} (raised : s.view.stop = true) : (s.view.stop || flag) = true :=
      Bool.or_eq_true_iff.mpr (.inl raised)
    -- What the director does depends on its phase and its task, but the change is one of two.
    rcases supervise_cases (β := β) plan s.supervisor s.glance s.world with
      ⟨rest, -, tasks, begun⟩ | ⟨d, reports, phase, tasks, goes⟩
    · have command : (system plan body).supervise s.glance s.world s.supervisor =
          { s.supervisor with tasks := rest }.begin plan s.glance s.world := begun
      rw [command]
      refine .hired tasks rfl
        (untouched_begin (β := β) plan { s.supervisor with tasks := rest } s.glance s.world) stop ?_
        ⟨_, rfl⟩
      simp [View.afterCommand, Director.begin, roster, fresh, Function.comp_def]
    · have hired : ((system plan body).supervise s.glance s.world s.supervisor).hire = [] :=
        goes.hire
      refine .directed ?_ goes.phase ?_ goes.untouched stop ?_ ?_
      · have same : ((system plan body).supervise s.glance s.world s.supervisor).state.tasks =
            d.tasks := goes.tasks
        simp only [View.afterCommand, same]
        exact tasks
      · have made := goes.reports
        rw [reports] at made
        exact made
      · simp [View.afterCommand, hired, roster_foldl_dismissAt]
      · intro shuts
        rcases goes.shuts shuts with raised | before
        · exact .inl (Bool.or_eq_true_iff.mpr (.inr raised))
        · rw [phase] at before
          exact .inr before

/-- A signal changes neither the books nor the users. -/
theorem changes_interrupt (s t : RunState τ β)
    (taken : s.view = { t.view with interrupts := t.view.interrupts + 1 }) :
    Changes plan body s.view (runInterrupt (system plan body) t).view := by
  rw [taken, view_runInterrupt]
  exact .quiet (untouched_signalled t.world) (fun _ => rfl) rfl rfl

/-- A request to stop changes neither. -/
theorem changes_askToStop (s : RunState τ β) : Changes plan body s.view (askToStop s).view := by
  rw [view_askToStop]
  refine .quiet (untouched_requestStop s.world) ?_ rfl rfl
  intro raised
  exact Bool.or_eq_true_iff.mpr (.inl raised)

/-- Whatever happens changes the view in one of the four ways. -/
theorem changes_of_happens {s t : RunState τ β} (happens : Happens plan body s t) :
    Changes plan body s.view t.view := by
  cases happens with
  | moved moves =>
    cases moves with
    | reschedule same => exact changes_of_same plan body same
    | worker i w found active => exact changes_work plan body s i w found active
    | supervisor working => exact changes_supervise plan body s working
    | interrupt taken => exact changes_interrupt plan body s _ taken
  | signalled handled =>
    rw [State.view_enqueue_interrupt]
    exact .quiet (.refl _) id rfl rfl
  | asked => exact changes_askToStop plan body s
  | dismissed i =>
    rw [State.view_dismiss]
    exact .quiet (.refl _) id rfl (roster_dismissAt _ i)
  | givenUp =>
    rw [State.view_dismissSupervisor]
    split
    · exact changes_of_same plan body rfl
    · exact .quiet (.refl _) id rfl rfl

/-- What every change of the view keeps holds wherever a session comes. -/
theorem kept_of_reaches {motive : RunView τ β → Prop}
    (kept : ∀ v v', motive v → Changes plan body v v' → motive v') {s t : RunState τ β}
    (start : motive s.view) (reaches : Reaches plan body s t) : motive t.view := by
  -- Induction on the course, of which only the views are looked at.
  induction reaches with
  | refl => exact start
  | tail _ happens ih => exact kept _ _ ih (changes_of_happens plan body happens)

/-! ### Sessions that are carried out -/

/-- Moves are things that happen. -/
theorem reaches_of_moves {s t : RunState τ β}
    (moves : Relation.ReflTransGen (Moves (system plan body)) s t) : Reaches plan body s t := by
  induction moves with
  | refl => exact .refl
  | tail _ move ih => exact ih.tail (.moved move)

omit [Scalar τ] in
/-- A new session is in turn. -/
theorem inTurn_initial (tasks : List Task) (transport : Http.Transport τ) (now : τ) :
    InTurn (initial tasks transport now : RunState τ β) :=
  inTurn_new now _ _

/-- What a session comes to until it is exhausted. -/
theorem reaches_exhaust (budget : Nat) (s : RunState τ β) (inTurn : InTurn s) :
    Reaches plan body s (exhaust (system plan body) budget s) ∧
      InTurn (exhaust (system plan body) budget s) := by
  obtain ⟨moves, inTurn'⟩ := moves_exhaust (system plan body) budget s inTurn
  exact ⟨reaches_of_moves plan body moves, inTurn'⟩

/-- What it comes to when it is conducted. -/
theorem reaches_conduct (budget : Nat) (s : RunState τ β) (inTurn : InTurn s) :
    Reaches plan body s (conduct (system plan body) budget s) ∧
      InTurn (conduct (system plan body) budget s) := by
  obtain ⟨moves, inTurn'⟩ := moves_conduct (system plan body) budget s inTurn
  exact ⟨reaches_of_moves plan body moves, inTurn'⟩

/-- Those who are left are dismissed one by one, the director first. -/
theorem reaches_dismissAll (s : RunState τ β) (inTurn : InTurn s) :
    Reaches plan body s (dismissAll s) ∧ InTurn (dismissAll s) := by
  have each (ids : List Nat) (t : RunState τ β) (start : Reaches plan body s t ∧ InTurn t) :
      Reaches plan body s (ids.foldl State.dismiss t) ∧ InTurn (ids.foldl State.dismiss t) := by
    induction ids generalizing t with
    | nil => exact start
    | cons i rest ih =>
      exact ih _ ⟨start.1.tail (.dismissed i), (t.even_dismiss i).inTurn start.2⟩
  exact each _ _ ⟨.single .givenUp, s.even_dismissSupervisor.inTurn inTurn⟩

/-- It takes several rounds to end all, as those who are dismissed may go on. -/
theorem reaches_endAll (budget rounds : Nat) (s : RunState τ β) (inTurn : InTurn s) :
    Reaches plan body s (endAll (system plan body) budget rounds s) := by
  induction rounds generalizing s with
  | zero => exact .refl
  | succ rounds ih =>
    obtain ⟨dismissed, dismissedInTurn⟩ := reaches_dismissAll plan body s inTurn
    obtain ⟨ended, endedInTurn⟩ := reaches_exhaust plan body budget _ dismissedInTurn
    unfold endAll
    split
    · exact (reaches_exhaust plan body budget s inTurn).1
    · dsimp only
      split
      · exact dismissed.trans ended
      · exact (dismissed.trans ended).trans (ih _ endedInTurn)

/-- A session that is wound up is reached. -/
theorem reaches_windUp (budget rounds : Nat) (s : RunState τ β) (inTurn : InTurn s) :
    Reaches plan body s (windUp (system plan body) budget rounds s) := by
  obtain ⟨closed, closedInTurn⟩ := reaches_exhaust plan body budget s inTurn
  -- Reopening puts what was left of the last round back into the queue.
  have reopened : (reopen (exhaust (system plan body) budget s)).jobs =
      (exhaust (system plan body) budget s).jobs := List.nil_append _
  have reopenedView : (reopen (exhaust (system plan body) budget s)).view =
      (exhaust (system plan body) budget s).view := by
    simp only [State.view, reopened]
    rfl
  have reopenedInTurn : InTurn (reopen (exhaust (system plan body) budget s)) := by
    intro member
    rw [State.turns, reopened]
    cases member <;> exact closedInTurn _
  refine ((closed.tail (.moved (.reschedule reopenedView))).trans
    (reaches_endAll plan body budget rounds _ reopenedInTurn)).tail (.moved (.reschedule ?_))
  rfl

/-- What is carried out is one of the courses that a session can take. -/
theorem reaches_perform (tasks : List Task) (transport : Http.Transport τ) (now : τ)
    (budget : Nat) :
    ∃ s, Reaches plan body (initial tasks transport now) s ∧
      (perform plan body tasks transport now budget).reports = s.supervisor.reports.reverse ∧
      (perform plan body tasks transport now budget).world = s.world := by
  obtain ⟨conducted, conductedInTurn⟩ :=
    reaches_conduct plan body budget _ (inTurn_initial tasks transport now)
  exact ⟨_, conducted.trans (reaches_windUp plan body budget ampleRounds _ conductedInTurn),
    rfl, rfl⟩

end

/-! ### A small session -/

namespace Sample

def plan : Plan Rat :=
  { scenario := "sample", options := { vus := 2, iterations := 3, maxDuration := 60 },
    requestTimeout := 1 }

/-- The second iteration fails, the others make a check and sleep for a second. -/
def script : Script Rat :=
  { common := [.check (some .statusless) [("fine", Predicate.always true)], .sleep 1],
    byIteration := [(1, [.giveWay, .raise (Fault.ordinary "ValueError" "odd")])] }

def body : Body Rat (Script.State Rat) :=
  script.body

def after (steps : Nat) : RunState Rat (Script.State Rat) :=
  conduct (system plan body) steps (initial [.run] {} 0)

theorem reaches (steps : Nat) : Reaches plan body (initial [.run] {} 0) (after steps) :=
  (reaches_conduct plan body steps _ (inTurn_initial [.run] {} 0)).1

end Sample

end Run

end Volley
