import Mathlib.Algebra.Order.Ring.Rat
import Volley.Proofs.Pool.News
import Volley.Proofs.Run.Duties
import Volley.Proofs.Run.Turns

/-!
# The lifecycle goes forward

A run is created, running, stopping, and completed or failed, in this order, and in an end state it
stays. Users, directors and whoever asks for a stop keep to that. A signal does not: its handler
sets the run stopping whatever its state. So the lifecycle goes forward just as long as no signal
does its work when the run has come to its end already, be it that it was queued before the handlers
were removed or that it came in during the shutdown after a failure, when they still are there.

## Main definitions

- `Lifecycle.Advances`: one state may follow another.
- `Run.Late`: a signal does its work in an end state.
- `Run.Advancing`: what the lifecycle does at a point of a session.

## Main results

- `advancing_of_reaches`: the lifecycle advances unless a signal is late.
- `late_signal_sets_back`: a failed run that is set back to stopping.
-/

namespace Volley

/-- A state may be followed by one that is at least as far, and an end state only by itself. -/
def Lifecycle.Advances (a b : Lifecycle) : Prop :=
  a.rank ≤ b.rank ∧ (a.isFinal = true → b = a)

theorem Lifecycle.Advances.refl (a : Lifecycle) : a.Advances a :=
  ⟨Nat.le_refl _, fun _ => rfl⟩

theorem Lifecycle.Advances.trans {a b c : Lifecycle} (first : a.Advances b)
    (second : b.Advances c) : a.Advances c := by
  refine ⟨first.1.trans second.1, ?_⟩
  intro final
  obtain rfl := first.2 final
  exact second.2 final

/-- A run that has not ended advances to all states that are farther than running. -/
theorem Lifecycle.advances_of_unended {a b : Lifecycle} (unended : a = .running ∨ a = .stopping)
    (far : 2 ≤ b.rank) : a.Advances b := by
  rcases unended with rfl | rfl
  · exact ⟨Nat.le_of_succ_le far, nofun⟩
  · exact ⟨far, nofun⟩

namespace Run

open Http Pool

variable {τ β : Type}

/-- To be asked to stop is to advance. -/
theorem Stops.advances {a b : Lifecycle} (stops : Stops a b) : a.Advances b := by
  rcases stops with rfl | ⟨rfl, rfl⟩
  · exact .refl _
  · exact ⟨by decide, nofun⟩

/-- A run that is still to come refuses to stop. -/
theorem requestStop_of_created {w : World τ} (created : w.lifecycle = .created) :
    w.requestStop = (false, w) := by
  rcases requestStop_cases w with ⟨running, -⟩ | ⟨-, refused⟩
  · rw [created] at running
    cases running
  · exact refused

/-! ### The lifecycle in the phases of a run -/

/-- A run that is still to come. -/
structure Ahead (v : RunView τ β) : Prop where
  idle : v.supervisor.phase = .idle
  created : v.world.lifecycle = .created
  unhandled : v.world.handling = false
  undisturbed : v.interrupts = 0
  nobody : v.crew = []

/-- The lifecycle that a run has in a phase. It may be stopping after a failure only if signals may
be late. -/
def Suits (late : Prop) (lifecycle : Lifecycle) : Phase τ → Prop
  | .watching _ | .draining _ _ _ => lifecycle = .running ∨ lifecycle = .stopping
  | .failing _ _ => lifecycle = .failed ∨ late ∧ lifecycle = .stopping
  | .idle => True

/-- The lifecycle that is reported with an end of a run. -/
def Tells (late : Prop) (report : Report τ) : Prop :=
  match report.ending with
  | .result _ => report.lifecycle = .completed
  | .failed _ => report.lifecycle = .failed ∨ late ∧ report.lifecycle = .stopping
  | _ => True

/-- The lifecycle agrees with what the director does and has reported. -/
structure Poised (late : Prop) (v : RunView τ β) : Prop where
  once : v.supervisor.tasks.count .run ≤ 1
  ahead : .run ∈ v.supervisor.tasks → Ahead v
  suits : Suits late v.world.lifecycle v.supervisor.phase
  tells : ∀ report ∈ v.supervisor.reports, Tells late report

section Phases

variable {late : Prop}

/-- A request to stop keeps the lifecycle suited, as one that has failed is not stopped. -/
theorem Suits.stops {a b : Lifecycle} {phase : Phase τ} (suits : Suits late a phase)
    (stops : Stops a b) : Suits late b phase := by
  rcases stops with rfl | ⟨rfl, rfl⟩
  · exact suits
  · cases phase with
    | watching start => exact .inr rfl
    | draining start failure stage => exact .inr rfl
    | failing cause stage => rcases suits with failed | ⟨-, stopping⟩ <;> contradiction
    | idle => trivial

/-- Where nothing that the director has or does changes, the lifecycle has to suit it. -/
theorem Poised.keep {v v' : RunView τ β} (poised : Poised late v)
    (supervisor : v'.supervisor = v.supervisor)
    (suits : Suits late v'.world.lifecycle v.supervisor.phase) (ahead : Ahead v → Ahead v') :
    Poised late v' := by
  refine ⟨?_, ?_, ?_, ?_⟩
  · rw [supervisor]
    exact poised.once
  · rw [supervisor]
    exact fun member => ahead (poised.ahead member)
  · rw [supervisor]
    exact suits
  · rw [supervisor]
    exact poised.tells

variable {g : Glance τ} {w : World τ}

/-- A wait begins with a lifecycle that suits it and advances to it. -/
theorem suits_wait [Scalar τ] {phase phase' : Phase τ} {lifecycle : Lifecycle}
    {dismiss crew : List Nat} {limit : τ}
    (wait : Wait g w phase phase' lifecycle dismiss crew limit)
    (suits : Suits late w.lifecycle phase) :
    Suits late lifecycle phase' ∧ w.lifecycle.Advances lifecycle := by
  cases wait with
  | overrun start left =>
    exact ⟨.inr rfl, Lifecycle.advances_of_unended suits (by decide)⟩
  | drain start failure crew left => exact ⟨suits, .refl _⟩
  | fail start cause stage past ordinary left =>
    exact ⟨.inl rfl, Lifecycle.advances_of_unended suits (by decide)⟩
  | settle cause crew left => exact ⟨suits, .refl _⟩

/-- A run whose waits are over has not ended. -/
theorem unended_of_concludes {phase : Phase τ} {start : τ} {failure : Option Fault}
    (past : Concludes g w phase start failure) (suits : Suits late w.lifecycle phase) :
    w.lifecycle = .running ∨ w.lifecycle = .stopping := by
  cases past with
  | watched => exact suits
  | drained => exact suits

/-- A run ends with a lifecycle that is reported, and advances to it. -/
theorem tells_verdict {phase : Phase τ} {report : Report τ}
    (verdict : Verdict g w phase report.lifecycle report.ending)
    (suits : Suits late w.lifecycle phase) :
    Tells late report ∧ w.lifecycle.Advances report.lifecycle := by
  obtain ⟨ending, lifecycle, active, claimed, time⟩ := report
  dsimp only at verdict ⊢
  -- An end that the director sets comes after waits; any other it finds as it is.
  cases verdict with
  | completed past result starts stops =>
    exact ⟨rfl, Lifecycle.advances_of_unended (unended_of_concludes past suits) (by decide)⟩
  | failed past ordinary ended =>
    exact ⟨.inl rfl, Lifecycle.advances_of_unended (unended_of_concludes past suits) (by decide)⟩
  | settled cause stage past => exact ⟨suits, .refl _⟩
  | aborted past grave => exact ⟨trivial, .refl _⟩

end Phases

/-! ### What happens to the lifecycle -/

section Steps

variable [Scalar τ] (plan : Plan τ) (body : Body τ β)

/-- A signal does its work when the run has ended. -/
def Late (s t : RunState τ β) : Prop :=
  s.world.lifecycle.isFinal = true ∧ ∃ before : RunState τ β,
    s.view = { before.view with interrupts := before.view.interrupts + 1 } ∧
      t = runInterrupt (system plan body) before

variable {plan body}

/-- The duties of the director let the lifecycle advance. -/
theorem poised_duty {late : Prop} {v : RunView τ β} {g : Glance τ}
    {command : Director.RunCommand τ β} (poised : Poised late v)
    (duty : Duty plan g v.world v.supervisor command) :
    Poised late (v.afterCommand command) ∧
      v.world.lifecycle.Advances command.world.lifecycle := by
  obtain ⟨once, ahead, suits, tells⟩ := poised
  cases duty with
  | finishes idle tasks same =>
    subst same
    -- With no tasks left the run is not to come any more.
    have nothing : .run ∉ v.supervisor.tasks := by
      rw [tasks]
      exact List.not_mem_nil
    exact ⟨⟨once, fun member => absurd member nothing, suits, tells⟩, .refl _⟩
  | begins rest idle tasks same =>
    subst same
    rw [tasks, List.count_cons_self] at once
    -- There is no second run, and the first one has been created and no more.
    have last : .run ∉ rest := List.count_eq_zero.mp (by omega)
    have before : v.world.lifecycle = .created := (ahead (by simp [tasks])).created
    have running := lifecycle_begin (β := β) plan { v.supervisor with tasks := rest } g v.world
    refine ⟨⟨?_, fun member => absurd member last, .inl running, tells⟩, ?_⟩
    · change rest.count .run ≤ 1
      omega
    · rw [before, running]
      exact ⟨by decide, nofun⟩
  | reports task rest other idle tasks stop world asked same =>
    subst same
    have stops : Stops v.world.lifecycle world.lifecycle := by
      rcases asked with rfl | rfl
      · exact .inl rfl
      · exact stops_requestStop v.world
    refine ⟨⟨?_, ?_, trivial, ?_⟩, stops.advances⟩
    · rw [tasks, List.count_cons] at once
      change rest.count .run ≤ 1
      omega
    · intro member
      -- As long as the run is to come nobody can stop it, so the world is the same.
      have still := ahead (by rw [tasks]; exact .tail _ member)
      have same : world = v.world := by
        rcases asked with rfl | rfl
        · rfl
        · rw [requestStop_of_created still.created]
      refine ⟨rfl, ?_, ?_, still.undisturbed, ?_⟩
      · exact same ▸ still.created
      · exact same ▸ still.unhandled
      · simp [View.afterCommand, Director.report, still.nobody]
    · intro report member
      rcases List.mem_cons.mp member with rfl | member
      · trivial
      · exact tells report member
  | waits carries crew limit order wait reports =>
    obtain ⟨suits', advances⟩ := suits_wait wait suits
    refine ⟨⟨?_, ?_, suits', ?_⟩, advances⟩
    · exact carries.tasks ▸ once
    · intro member
      -- The run that is to come is not the one that is under way.
      exact absurd (ahead (carries.tasks ▸ member)).idle (busy_of_wait wait)
    · exact reports ▸ tells
  | ends carries dismiss order phase report reports time lifecycle verdict completes =>
    obtain ⟨tells', advances⟩ := tells_verdict verdict suits
    refine ⟨⟨?_, ?_, ?_, ?_⟩, lifecycle ▸ advances⟩
    · exact carries.tasks ▸ once
    · intro member
      exact absurd (ahead (carries.tasks ▸ member)).idle (busy_of_verdict verdict)
    · exact phase ▸ trivial
    · intro other member
      rw [show (v.afterCommand command).supervisor.reports = report :: v.supervisor.reports from
        reports] at member
      rcases List.mem_cons.mp member with rfl | member
      · exact tells'
      · exact tells other member

section Moves

variable {late : Prop} {s : RunState τ β} (poised : Poised late s.view)

include poised

/-- A turn of a user may only set the lifecycle stopping. -/
theorem poised_runWorker {i : Nat} {w : Worker (VirtualUser τ β)} (found : s.workers[i]? = some w)
    (active : w.outcome? = none) :
    Poised late (runWorker (system plan body) s i).view ∧
      s.world.lifecycle.Advances (runWorker (system plan body) s i).world.lifecycle := by
  have view := view_runWorker (system plan body) s i w found active
  have world := world_runWorker plan body found active
  have writes : Writes s.now s.world (runWorker (system plan body) s i).world :=
    world ▸ writes_work plan body s.glance s.world w.state _
  refine ⟨poised.keep ?_ (poised.suits.stops writes.lifecycle) ?_,
    Stops.advances writes.lifecycle⟩
  · rw [view]
    rfl
  · -- Before the run nobody is there to take a turn.
    intro still
    have nobody : s.workers = [] := List.map_eq_nil_iff.mp still.nobody
    rw [nobody] at found
    cases found

/-- The director keeps the lifecycle suited, and one that was given up leaves it alone. -/
theorem poised_runSupervisor (working : s.view.finished = false) :
    Poised late (runSupervisor (system plan body) s).view ∧
      s.world.lifecycle.Advances (runSupervisor (system plan body) s).world.lifecycle := by
  cases dismissed : s.givenUp with
  | true =>
    have view := view_runSupervisor_of_givenUp (system plan body) s dismissed
    have world : (runSupervisor (system plan body) s).world =
        Director.giveUp plan s.world s.supervisor := congrArg View.world view
    have same := lifecycle_giveUp plan s.world s.supervisor
    rw [view, world, same]
    refine ⟨poised.keep rfl (same ▸ poised.suits) ?_, .refl _⟩
    -- Before the run there are no handlers to take away.
    intro still
    have nothing : Director.giveUp plan s.world s.supervisor = s.world := by
      have idle : s.supervisor.phase = .idle := still.idle
      unfold Director.giveUp
      rw [idle]
    exact ⟨still.idle, same.trans still.created,
      (congrArg World.handling nothing).trans still.unhandled, still.undisturbed, still.nobody⟩
  | false =>
    have view := view_runSupervisor (system plan body) s dismissed working
    have world : (runSupervisor (system plan body) s).world =
        (Director.supervise plan s.glance s.world s.supervisor :
          Director.RunCommand τ β).world := congrArg View.world view
    rw [view, world]
    exact poised_duty poised (duty_supervise (β := β) plan s.supervisor s.glance)

/-- A signal sets the run stopping, which is a step back only if the run has ended. -/
theorem poised_runInterrupt {before : RunState τ β}
    (taken : s.view = { before.view with interrupts := before.view.interrupts + 1 })
    (allowed : Late plan body s (runInterrupt (system plan body) before) → late) :
    Poised late (runInterrupt (system plan body) before).view ∧
      (s.world.lifecycle.Advances (runInterrupt (system plan body) before).world.lifecycle ∨
        Late plan body s (runInterrupt (system plan body) before)) := by
  have view := view_runInterrupt (system plan body) before
  have stopping : (runInterrupt (system plan body) before).world.lifecycle = .stopping :=
    congrArg (fun v => v.world.lifecycle) view
  have supervisor : before.supervisor = s.supervisor := congrArg View.supervisor taken.symm
  have late_ (final : s.world.lifecycle.isFinal = true) :
      Late plan body s (runInterrupt (system plan body) before) :=
    ⟨final, before, taken, rfl⟩
  refine ⟨poised.keep supervisor ?_ ?_, ?_⟩
  · have suits : Suits late s.world.lifecycle s.supervisor.phase := poised.suits
    change Suits late (runInterrupt (system plan body) before).world.lifecycle s.supervisor.phase
    rw [stopping]
    generalize s.supervisor.phase = phase at suits
    cases phase with
    | watching start => exact .inr rfl
    | draining start failure stage => exact .inr rfl
    | failing cause stage =>
      refine .inr ⟨?_, rfl⟩
      rcases suits with failed | ⟨permitted, -⟩
      · exact allowed (late_ (by rw [failed]; rfl))
      · exact permitted
    | idle => trivial
  · -- Before the run no interrupt is queued.
    intro still
    have undisturbed := still.undisturbed
    rw [taken] at undisturbed
    cases undisturbed
  · by_cases final : s.world.lifecycle.isFinal = true
    · exact .inr (late_ final)
    · left
      rw [stopping]
      generalize s.world.lifecycle = lifecycle at final
      cases lifecycle with
      | completed => exact absurd rfl final
      | failed => exact absurd rfl final
      | _ => exact ⟨by decide, fun ended => absurd ended final⟩

omit [Scalar τ] in
/-- A request to stop from outside keeps the lifecycle suited. -/
theorem poised_askToStop : Poised late (askToStop s).view ∧
    s.world.lifecycle.Advances (askToStop s).world.lifecycle := by
  have view := view_askToStop s
  have world : (askToStop s).world = s.world.requestStop.2 := congrArg View.world view
  have supervisor : (askToStop s).supervisor = s.supervisor := congrArg View.supervisor view
  have stops : Stops s.world.lifecycle (askToStop s).world.lifecycle :=
    world ▸ stops_requestStop s.world
  refine ⟨poised.keep supervisor (poised.suits.stops stops) ?_, stops.advances⟩
  intro still
  have refused : s.world.requestStop = (false, s.world) := requestStop_of_created still.created
  have same : askToStop s = s := by simp [askToStop, refused]
  rwa [same]

/-- Whatever happens, the lifecycle keeps agreeing with the director, and it advances unless a
signal is late. -/
theorem poised_of_happens {t : RunState τ β} (happens : Happens plan body s t)
    (allowed : Late plan body s t → late) :
    Poised late t.view ∧
      (s.world.lifecycle.Advances t.world.lifecycle ∨ Late plan body s t) := by
  -- Only a signal can set the lifecycle back.
  have advances (step : Poised late t.view ∧ s.world.lifecycle.Advances t.world.lifecycle) :
      Poised late t.view ∧
        (s.world.lifecycle.Advances t.world.lifecycle ∨ Late plan body s t) :=
    step.imp_right .inl
  cases happens with
  | moved moves =>
    cases moves with
    | reschedule same =>
      have world : t.world = s.world := congrArg View.world same
      rw [same, world]
      exact ⟨poised, .inl (.refl _)⟩
    | worker i w found active => exact advances (poised_runWorker poised found active)
    | supervisor working => exact advances (poised_runSupervisor poised working)
    | interrupt taken => exact poised_runInterrupt poised taken allowed
  | signalled handled =>
    rw [State.view_enqueue_interrupt]
    refine ⟨poised.keep rfl poised.suits ?_, .inl (.refl _)⟩
    intro still
    -- Before the run no signal is handled.
    have unhandled : s.world.handling = false := still.unhandled
    rw [handled] at unhandled
    cases unhandled
  | asked => exact advances (poised_askToStop poised)
  | dismissed i =>
    have view := s.view_dismiss i
    have world : (s.dismiss i).world = s.world := congrArg View.world view
    rw [view, world]
    refine ⟨poised.keep rfl poised.suits ?_, .inl (.refl _)⟩
    intro still
    exact ⟨still.idle, still.created, still.unhandled, still.undisturbed,
      by simp [dismissAt, still.nobody]⟩
  | givenUp =>
    have view := s.view_dismissSupervisor
    have world : s.dismissSupervisor.world = s.world := by
      refine (congrArg View.world view).trans ?_
      split <;> rfl
    rw [view, world]
    split
    · exact ⟨poised, .inl (.refl _)⟩
    · refine ⟨poised.keep rfl poised.suits ?_, .inl (.refl _)⟩
      intro still
      exact ⟨still.idle, still.created, still.unhandled, still.undisturbed, still.nobody⟩

end Moves

end Steps

/-! ### Whole sessions -/

section Sessions

variable [Scalar τ] (plan : Plan τ) (body : Body τ β)

/-- Something happens that is no late signal. -/
def InTime (s t : RunState τ β) : Prop :=
  Happens plan body s t ∧ ¬ Late plan body s t

omit [Scalar τ] in
/-- At first the run is still to come. -/
theorem poised_initial (late : Prop) (tasks : List Task) (once : tasks.count .run ≤ 1)
    (transport : Transport τ) (now : τ) :
    Poised late (initial tasks transport now : RunState τ β).view :=
  ⟨once, fun _ => ⟨rfl, rfl, rfl, rfl, rfl⟩, trivial, nofun⟩

/-- If signals may be late, the lifecycle suits the director all the time. -/
theorem poised_reaches {s t : RunState τ β} (poised : Poised True s.view)
    (reaches : Reaches plan body s t) : Poised True t.view := by
  induction reaches with
  | refl => exact poised
  | tail _ happens ih => exact (poised_of_happens ih happens fun _ => trivial).1

/-- As long as no signal is late, a failed run stays failed. -/
theorem poised_inTime {s t : RunState τ β} (poised : Poised False s.view)
    (inTime : Relation.ReflTransGen (InTime plan body) s t) : Poised False t.view := by
  induction inTime with
  | refl => exact poised
  | tail _ step ih => exact (poised_of_happens ih step.1 step.2).1

variable {plan body}

/-- A signal that is late sets the lifecycle back. -/
theorem not_advances_of_late {s t : RunState τ β} (late : Late plan body s t) :
    ¬ s.world.lifecycle.Advances t.world.lifecycle := by
  obtain ⟨final, before, -, rfl⟩ := late
  intro advances
  have same : Lifecycle.stopping = s.world.lifecycle := advances.2 final
  rw [← same] at final
  cases final

/-- As long as no signal is late the lifecycle advances. -/
theorem advances_inTime {s t : RunState τ β} (poised : Poised True s.view)
    (inTime : Relation.ReflTransGen (InTime plan body) s t) :
    s.world.lifecycle.Advances t.world.lifecycle ∧ Poised True t.view := by
  induction inTime with
  | refl => exact ⟨.refl _, poised⟩
  | tail _ step ih =>
    obtain ⟨poised', advances⟩ := poised_of_happens ih.2 step.1 fun _ => trivial
    exact ⟨ih.1.trans (advances.resolve_right step.2), poised'⟩

variable (plan body)

/-- A session that is conducted further reaches what it comes to then. -/
theorem reaches_conduct_add (first second : Nat) {s : RunState τ β} (inTurn : InTurn s) :
    Reaches plan body (conduct (system plan body) first s)
      (conduct (system plan body) (first + second) s) := by
  rw [conduct_add]
  exact (reaches_conduct plan body second _ (reaches_conduct plan body first s inTurn).2).1

/-- What the lifecycle does at a point of a session. -/
structure Advancing (start s : RunState τ β) : Prop where
  /-- Whatever happens next, it advances just if that is no late signal. -/
  next : ∀ t, Happens plan body s t →
    (s.world.lifecycle.Advances t.world.lifecycle ↔ ¬ Late plan body s t)
  /-- So it does all the time, as long as no signal is late. -/
  later : ∀ t, Relation.ReflTransGen (InTime plan body) s t →
    s.world.lifecycle.Advances t.world.lifecycle
  /-- A run that gives a result is completed then. -/
  completed : ∀ report ∈ s.supervisor.reports, ∀ result, report.ending = .result result →
    report.lifecycle = .completed
  /-- One that fails is failed then, unless it was set back to stopping. -/
  failed : ∀ report ∈ s.supervisor.reports, ∀ cause, report.ending = .failed cause →
    report.lifecycle = .failed ∨ report.lifecycle = .stopping
  /-- It never is if no signal was late. -/
  kept : Relation.ReflTransGen (InTime plan body) start s →
    ∀ report ∈ s.supervisor.reports, ∀ cause, report.ending = .failed cause →
      report.lifecycle = .failed

/-- At every point of a session with one run, however it has come there, the lifecycle advances just
as long as no signal is late. -/
theorem advancing_of_reaches (tasks : List Task) (once : tasks.count .run ≤ 1)
    (transport : Transport τ) (now : τ) (s : RunState τ β)
    (reaches : Reaches plan body (initial tasks transport now) s) :
    Advancing plan body (initial tasks transport now) s := by
  have poised := poised_reaches plan body (poised_initial True tasks once transport now) reaches
  refine ⟨?_, ?_, ?_, ?_, ?_⟩
  · intro t happens
    constructor
    · intro advances late
      exact not_advances_of_late late advances
    · intro early
      exact (poised_of_happens poised happens fun _ => trivial).2.resolve_right early
  · intro t inTime
    exact (advances_inTime poised inTime).1
  · intro report member result ending
    have tells := poised.tells report member
    rw [Tells, ending] at tells
    exact tells
  · intro report member cause ending
    have tells := poised.tells report member
    rw [Tells, ending] at tells
    exact tells.imp_right And.right
  · -- What the invariant says of late signals is false here, so the run is still failed.
    intro inTime report member cause ending
    have tells := (poised_inTime plan body (poised_initial False tasks once transport now)
      inTime).tells report member
    rw [Tells, ending] at tells
    exact tells.resolve_right fun late => late.1

end Sessions

/-! ### A late signal -/

namespace Stubborn

def plan : Plan Rat :=
  { scenario := "stubborn", options := { vus := 2, iterations := 2, maxDuration := 1 },
    requestTimeout := 60 }

/-- The second user sleeps past the end of the run, ignores that it is dismissed, and sends a signal
when the run has failed. -/
def script : Script Rat :=
  { byUser := [(1, [.sleepIgnoring 100, .sleep 3, .signal "SIGINT"])] }

def body : Body Rat (Script.State Rat) :=
  script.body

/-- The first user cannot open its client. -/
def transport : Transport Rat :=
  { connectFault := some (0, Fault.ordinary "RuntimeError" "no socket") }

def start : RunState Rat (Script.State Rat) :=
  initial [.run] transport 0

def after (steps : Nat) : RunState Rat (Script.State Rat) :=
  conduct (system plan body) steps start

theorem reaches (steps : Nat) : Reaches plan body start (after steps) :=
  (reaches_conduct plan body steps _ (inTurn_initial [.run] transport 0)).1

theorem reaches_more (first second : Nat) :
    Reaches plan body (after first) (after (first + second)) :=
  reaches_conduct_add plan body first second (inTurn_initial [.run] transport 0)

end Stubborn

def Report.isFailed (report : Report τ) : Bool :=
  match report.ending with
  | .failed _ => true
  | _ => false

/-- The run has failed, and the lifecycle advances until the signal is late. -/
theorem advancing_stubborn : (Stubborn.after 32).world.lifecycle = .failed ∧
    Advancing Stubborn.plan Stubborn.body Stubborn.start (Stubborn.after 32) :=
  ⟨by decide +kernel,
    advancing_of_reaches _ _ [.run] (by decide) Stubborn.transport 0 _ (Stubborn.reaches 32)⟩

/-- The late signal sets the failed run back to stopping, and so it ends. -/
theorem late_signal_sets_back :
    Reaches Stubborn.plan Stubborn.body Stubborn.start (Stubborn.after 32) ∧
    Reaches Stubborn.plan Stubborn.body (Stubborn.after 32) (Stubborn.after 33) ∧
    (Stubborn.after 32).world.lifecycle = .failed ∧
    (Stubborn.after 33).world.lifecycle = .stopping ∧
    ¬ (Stubborn.after 32).world.lifecycle.Advances (Stubborn.after 33).world.lifecycle ∧
    Reaches Stubborn.plan Stubborn.body (Stubborn.after 33) (Stubborn.after 40) ∧
    ∃ report ∈ (Stubborn.after 40).supervisor.reports,
      report.isFailed = true ∧ report.lifecycle = .stopping := by
  have before : (Stubborn.after 32).world.lifecycle = .failed := by decide +kernel
  have behind : (Stubborn.after 33).world.lifecycle = .stopping := by decide +kernel
  have told : ((Stubborn.after 40).supervisor.reports.any fun report =>
      report.isFailed && decide (report.lifecycle = .stopping)) = true := by decide +kernel
  refine ⟨Stubborn.reaches 32, Stubborn.reaches_more 32 1, before, behind, ?_,
    Stubborn.reaches_more 33 7, ?_⟩
  · rw [before, behind]
    intro advances
    exact absurd advances.1 (by decide)
  · obtain ⟨report, member, holds⟩ := List.any_eq_true.mp told
    obtain ⟨failed, stopping⟩ := Bool.and_eq_true_iff.mp holds
    exact ⟨report, member, failed, of_decide_eq_true stopping⟩

end Run

end Volley
