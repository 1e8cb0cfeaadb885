import Volley.Proofs.Pool.News
import Volley.Proofs.Run.Numbers
import Volley.Proofs.Run.Pace
import Volley.Proofs.Run.Stopping

/-!
# Undisturbed runs

A session with one run is undisturbed as long as nobody stops it, dismisses a user or sends a
signal, no client fails to open or to close, and no user ends by a fault. Nothing but the turns of
its users then happens to it while its director waits for them, and when all of them have ended, the
director completes the run: under every schedule, and so in the session that is carried out. What an
invariant says of the run at that point is what its report tells of.

## Main definitions

- `Run.Undisturbed`: the invariant of all such runs.
- `Run.Gentle`: a turn of a user that does not disturb the run.
- `Run.Over`: the director does not wait any more.
- `Run.Finished`: all users have ended while the director still waits.
- `Run.Guards`: an invariant that holds until the director stops waiting.
- `Run.Exhausted`: all numbers are claimed and settled.

## Main results

- `Undisturbed.work`, `Undisturbed.begin`: what keeps a run undisturbed.
- `exhausted_of_finished`: a finished run is exhausted.
- `Guards.completes`: the director completes a finished run, of which the invariant holds.
- `perform_of_guards`: so it does in the session that is carried out.
-/

namespace Volley

namespace Run

open Http Pool

variable {τ β : Type}

/-- Where the director of an undisturbed run stands. -/
inductive Setting (plan : Plan τ) (v : RunView τ β) : Prop
  | ahead (phase : v.supervisor.phase = .idle) (tasks : v.supervisor.tasks = [.run])
      (reports : v.supervisor.reports = []) (nobody : v.crew = [])
  | watching (start : τ) (phase : v.supervisor.phase = .watching start)
      (tasks : v.supervisor.tasks = []) (reports : v.supervisor.reports = [])
      (crew : v.world.crew = List.range (min plan.options.vus plan.options.iterations))
      (hired : v.crew.length = min plan.options.vus plan.options.iterations)

/-- The director does not wait for the users of its only run any more. -/
def Over (v : RunView τ β) : Prop :=
  v.supervisor.tasks = [] ∧ ∀ start, v.supervisor.phase ≠ .watching start

/-- A session with one run that nothing has disturbed, while its director waits or has not begun. -/
structure Undisturbed (plan : Plan τ) (v : RunView τ β) : Prop where
  lowered : v.stop = false
  silent : v.interrupts = 0
  kept : v.givenUp = false
  working : v.finished = false
  undismissed : ∀ standing ∈ v.crew, standing.dismissed = false
  outcomes : ∀ standing ∈ v.crew, standing.outcome = none ∨ standing.outcome = some .returned
  faultless : Faultless v.world.transport
  setting : Setting plan v

/-- A turn of a user that disturbs nothing: it raises no flag, sends no signal, and if it is the
last one, the user returns. -/
structure Gentle (w : World τ) (turn : VirtualUser.UserTurn τ β) : Prop where
  lowered : turn.stop = false
  silent : turn.interrupt = false
  held : Held w turn.world
  outcome : turn.pause.outcome? = none ∨ turn.pause.outcome? = some .returned

/-- All users of a run have ended while its director still waits for them. -/
structure Finished (s : RunState τ β) : Prop where
  watching : ∃ start, s.supervisor.phase = .watching start
  ended : ∀ w ∈ s.workers, w.outcome? ≠ none

def Phase.isWatching : Phase τ → Bool
  | .watching _ => true
  | _ => false

theorem finished_iff {s : RunState τ β} : Finished s ↔
    s.supervisor.phase.isWatching = true ∧ (s.workers.all fun w => w.outcome?.isSome) = true := by
  constructor
  · rintro ⟨⟨start, watching⟩, ended⟩
    rw [watching, List.all_eq_true]
    exact ⟨rfl, fun w member => Option.isSome_iff_ne_none.mpr (ended w member)⟩
  · rintro ⟨watches, ended⟩
    refine ⟨?_, fun w member => Option.isSome_iff_ne_none.mp (List.all_eq_true.mp ended w member)⟩
    -- Any phase but waiting makes the test false.
    cases phase : s.supervisor.phase with
    | watching start => exact ⟨start, rfl⟩
    | _ => simp [phase, Phase.isWatching] at watches

instance (s : RunState τ β) : Decidable (Finished s) :=
  decidable_of_iff _ finished_iff.symm

theorem Finished.standing {s : RunState τ β} (finished : Finished s) :
    ∀ standing ∈ s.view.crew, standing.outcome ≠ none := by
  intro standing member
  obtain ⟨w, here, rfl⟩ := List.mem_map.mp member
  exact finished.ended w here

section Turns

variable {plan : Plan τ} {body : Body τ β}

theorem undisturbed_initial (transport : Http.Transport τ) (faultless : Faultless transport)
    (now : τ) : Undisturbed plan (initial [.run] transport now : RunState τ β).view := by
  have nobody : (initial [.run] transport now : RunState τ β).view.crew = [] := rfl
  exact ⟨rfl, rfl, rfl, rfl, by simp [nobody], by simp [nobody], faultless,
    .ahead rfl rfl rfl nobody⟩

variable [Scalar τ]

/-! ### Turns of users -/

/-- Nobody is dismissed in an undisturbed run, so a user goes on from where it rested. -/
theorem Undisturbed.view_work {s : RunState τ β} (calm : Undisturbed plan s.view) {i : Nat}
    {w : Worker (VirtualUser τ β)} (found : s.workers[i]? = some w) (active : w.outcome? = none) :
    (runWorker (system plan body) s i).view =
      s.view.afterTurn i (VirtualUser.work plan body s.glance s.world w.state .elapsed) := by
  have placed : s.view.crew[i]? = some w.standing := by simp [State.view, found]
  have undismissed : w.dismissed = false := calm.undismissed _ (List.mem_of_getElem? placed)
  rw [view_runWorker (system plan body) s i w found active, if_neg (by simp [undismissed])]
  rfl

theorem Undisturbed.work {s : RunState τ β} (calm : Undisturbed plan s.view) {i : Nat}
    {w : Worker (VirtualUser τ β)} (found : s.workers[i]? = some w) (active : w.outcome? = none)
    (gentle : Gentle s.world (VirtualUser.work plan body s.glance s.world w.state .elapsed)) :
    Undisturbed plan (runWorker (system plan body) s i).view := by
  rw [calm.view_work found active]
  obtain ⟨lowered, silent, kept, working, undismissed, outcomes, faultless, setting⟩ := calm
  -- What the turn changes is gentle; the director, its tasks and its reports are not touched.
  refine ⟨Bool.or_eq_false_iff.mpr ⟨lowered, gentle.lowered⟩, ?_, kept, working, ?_, ?_,
    gentle.held.faultless faultless, ?_⟩
  · simpa [View.afterTurn, gentle.silent] using silent
  · intro standing here
    rcases List.mem_or_eq_of_mem_set here with before | rfl
    · exact undismissed standing before
    · rfl
  · intro standing here
    rcases List.mem_or_eq_of_mem_set here with before | rfl
    · exact outcomes standing before
    · exact gentle.outcome
  · cases setting with
    | ahead phase tasks reports nobody =>
      -- Before the run begins there is nobody who could take a turn.
      have placed : s.view.crew[i]? = some w.standing := by simp [State.view, found]
      rw [nobody] at placed
      cases placed
    | watching start phase tasks reports crew hired =>
      exact .watching start phase tasks reports (gentle.held.crew.trans crew) (by
        simpa [View.afterTurn] using hired)

/-! ### Turns of the director -/

omit [Scalar τ] in
/-- All who are there when a run has begun are newcomers. -/
theorem crew_begin {v : RunView τ β} (g : Glance τ) (nobody : v.crew = []) :
    (v.afterCommand ({ v.supervisor with tasks := [] }.begin plan g v.world)).crew =
      (List.range (min plan.options.vus plan.options.iterations)).map fun vu =>
        fresh (⟨vu, .outside⟩ : VirtualUser τ β) := by
  simp [View.afterCommand, Director.begin, nobody, Function.comp_def]

omit [Scalar τ] in
theorem newcomer_of_mem {v : RunView τ β} {g : Glance τ} (nobody : v.crew = [])
    {standing : Standing (VirtualUser τ β)} (member : standing ∈
      (v.afterCommand ({ v.supervisor with tasks := [] }.begin plan g v.world)).crew) :
    ∃ vu, standing = fresh ⟨vu, .outside⟩ := by
  rw [crew_begin g nobody] at member
  obtain ⟨vu, -, rfl⟩ := List.mem_map.mp member
  exact ⟨vu, rfl⟩

omit [Scalar τ] in
theorem Undisturbed.begin {v : RunView τ β} (calm : Undisturbed plan v) (g : Glance τ)
    (nobody : v.crew = []) (none_ : g.outcomes = []) (reports : v.supervisor.reports = []) :
    Undisturbed plan
      (v.afterCommand ({ v.supervisor with tasks := [] }.begin plan g v.world)) := by
  have untouched := untouched_begin (β := β) plan { v.supervisor with tasks := [] } g v.world
  refine ⟨by simpa [View.afterCommand, Director.begin] using calm.lowered, calm.silent, calm.kept,
    rfl, ?_, ?_, ?_, ?_⟩
  · intro standing member
    obtain ⟨vu, rfl⟩ := newcomer_of_mem nobody member
    rfl
  · intro standing member
    obtain ⟨vu, rfl⟩ := newcomer_of_mem nobody member
    exact .inl rfl
  · have same : (v.afterCommand
        ({ v.supervisor with tasks := [] }.begin plan g v.world)).world.transport =
          v.world.transport := untouched.transport
    rw [same]
    exact calm.faultless
  · -- All are hired at once, in the places that nobody had before.
    exact .watching g.now rfl rfl reports (by simp [View.afterCommand, Director.begin, none_])
      (by simp [crew_begin g nobody])

theorem supervise_of_ahead {s : RunState τ β} (phase : s.supervisor.phase = .idle)
    (tasks : s.supervisor.tasks = [.run]) :
    (system plan body).supervise s.glance s.world s.supervisor =
      { s.supervisor with tasks := [] }.begin plan s.glance s.world := by
  simp [system, Director.supervise, phase, tasks]

omit [Scalar τ] in
theorem outcomes_of_nobody {s : RunState τ β} (nobody : s.view.crew = []) :
    s.glance.outcomes = [] := by
  have workers : s.workers = [] := List.map_eq_nil_iff.mp nobody
  simp [State.glance, workers]

/-- The director that takes its turn while it waits does not wait any more. -/
theorem over_supervise {s : RunState τ β} (kept : s.givenUp = false)
    (working : s.view.finished = false) (tasks : s.supervisor.tasks = []) :
    Over (runSupervisor (system plan body) s).view := by
  rw [view_runSupervisor (system plan body) s kept working]
  -- It had no task besides, so a new run cannot begin, and the duty it does ends the wait.
  rcases supervise_cases (β := β) plan s.supervisor s.glance s.world with
    ⟨rest, -, run, -⟩ | ⟨d, -, -, fewer, goes⟩
  · rw [tasks] at run
    cases run
  · refine ⟨goes.tasks.trans ?_, goes.phase⟩
    rcases fewer with same | ⟨task, -, more⟩
    · exact same.trans tasks
    · rw [tasks] at more
      cases more

theorem over_changes {v v' : RunView τ β} (past : Over v) (changes : Changes plan body v v') :
    Over v' := by
  cases changes with
  | quiet untouched stop supervisor crew => rwa [Over, supervisor]
  | strode i user found stage outcome stride stop supervisor crew => rwa [Over, supervisor]
  -- A new run needs a task, and there is none.
  | hired tasks reports untouched stop crew =>
    rw [past.1] at tasks
    cases tasks
  | directed tasks phase reports untouched stop crew =>
    refine ⟨?_, phase⟩
    rcases tasks with same | ⟨task, -, more⟩
    · exact same.trans past.1
    · rw [past.1] at more
      cases more

/-- A director that finds all users ended in the ordinary way completes the run. -/
theorem supervise_of_returned {g : Glance τ} {w : World τ} {d : Director τ} {start : τ}
    {users : Nat} (phase : d.phase = .watching start) (crew : w.crew = List.range users)
    (returned : ∀ i < users, g.outcome? i = some .returned) :
    (Director.supervise plan g w d : Director.RunCommand τ β) = d.complete plan g w start := by
  -- Nobody failed and nobody is left, so the wait has nothing to wait for and its run is
  -- concluded.
  have unfailing : Director.firstFailure g w.crew = none := by
    rw [Director.firstFailure, crew, List.findSome?_eq_none_iff]
    intro i member
    rw [returned i (List.mem_range.mp member)]
    rfl
  have nobody : g.pending w.crew = [] := by
    rw [Glance.pending, crew, List.filter_eq_nil_iff]
    intro i member
    rw [returned i (List.mem_range.mp member)]
    simp
  unfold Director.supervise
  rw [phase]
  simp only [Director.waited, unfailing, nobody, List.isEmpty_nil, if_true, Director.conclude]

/-- What a director does in its next turn: it completes its last run. -/
structure Completing (plan : Plan τ) (body : Body τ β) (s : RunState τ β) (start : τ) : Prop where
  supervise : (system plan body).supervise s.glance s.world s.supervisor =
    s.supervisor.complete plan s.glance s.world start
  tasks : s.supervisor.tasks = []
  reports : s.supervisor.reports = []
  hired : s.view.crew.length = min plan.options.vus plan.options.iterations

/-- The director completes an undisturbed run when all its users have ended. -/
theorem completes_of_undisturbed {s : RunState τ β} (calm : Undisturbed plan s.view)
    (finished : Finished s) : ∃ start, Completing plan body s start := by
  cases calm.setting with
  -- A run that has not begun is not watched, so it cannot be finished.
  | ahead phase tasks reports nobody =>
    obtain ⟨start, watching⟩ := finished.watching
    have idle : s.supervisor.phase = .idle := phase
    rw [idle] at watching
    cases watching
  | watching start phase tasks reports crew hired =>
    refine ⟨start, ?_, tasks, reports, hired⟩
    apply supervise_of_returned phase crew
    intro i inside
    -- Everyone hired has a place, and has ended in the only way that is left.
    rw [← hired] at inside
    have placed : i < s.workers.length := by simpa [State.view] using inside
    have standing : s.view.crew[i] = s.workers[i].standing := by simp [State.view]
    have ended : s.view.crew[i].outcome ≠ none := by
      rw [standing]
      exact finished.ended _ (List.getElem_mem placed)
    have outcome := (calm.outcomes _ (List.getElem_mem inside)).resolve_left ended
    rw [standing] at outcome
    simpa [State.glance, Glance.outcome?, placed, Worker.standing] using outcome

/-! ### The end of an undisturbed run -/

omit [Scalar τ] in
/-- A user that has ended in the ordinary way has closed its client and settled what it began. -/
theorem Fits.of_returned {laps : List Lap} {i : Nat} {user : VirtualUser τ β}
    (fits : Fits laps i (some (user, some .returned))) :
    user.stage = .gone ∧ Lap.unsettled i laps = none := by
  obtain ⟨vu, stage⟩ := user
  obtain ⟨-, fits⟩ := fits
  -- In every stage but the last, the user would not have an outcome.
  cases stage with
  | outside => cases fits.1
  | between client => cases fits.1
  | inside client iteration stage => cases fits.1
  | gone => exact ⟨rfl, fits.2 rfl⟩

/-- All numbers are claimed, and everyone has left and settled what it began. -/
structure Exhausted (plan : Plan τ) (v : RunView τ β) : Prop where
  claimed : v.world.claimed = plan.options.iterations
  gone : ∀ standing ∈ v.crew, standing.state.stage = .gone
  settled : Lap.leftOver (min plan.options.vus plan.options.iterations) v.world.laps = []

theorem exhausted_of_finished (users : 0 < min plan.options.vus plan.options.iterations)
    {transport : Http.Transport τ} {now : τ} {s : RunState τ β}
    (moves : Relation.ReflTransGen (Moves (system plan body)) (initial [.run] transport now) s)
    (calm : Undisturbed plan s.view) (finished : Finished s)
    (hired : s.view.crew.length = min plan.options.vus plan.options.iterations) :
    Exhausted plan s.view := by
  have reaches := reaches_of_moves plan body moves
  have sound := sound_reaches plan body [.run] (by decide) transport now s reaches
  have patient := patient_reaches plan body [.run] transport now s reaches
  -- All of them ended in the ordinary way, so they have left, and settled what they began.
  have returned (i : Nat) (inside : i < s.view.crew.length) :
      (roster s.view.crew)[i]? = some (s.view.crew[i].state, some .returned) := by
    have member := List.getElem_mem inside
    have outcome := (calm.outcomes _ member).resolve_left (finished.standing _ member)
    simp [roster, inside, outcome]
  have left (i : Nat) (inside : i < s.view.crew.length) :
      s.view.crew[i].state.stage = .gone ∧ Lap.unsettled i s.view.world.laps = none := by
    have fits := sound.users i
    rw [returned i inside] at fits
    exact fits.of_returned
  refine ⟨?_, ?_, ?_⟩
  · -- The flag is down, so the first user can only have left because all numbers were taken.
    rcases patient.reason 0 _ (returned 0 (hired ▸ users)) with raised | taken
    · rw [calm.lowered] at raised
      cases raised
    · exact Nat.le_antisymm patient.bound taken
  · intro standing member
    obtain ⟨i, inside, rfl⟩ := List.mem_iff_getElem.mp member
    exact (left i inside).1
  · apply List.filterMap_eq_nil_iff.mpr
    intro vu member
    exact (left vu (by rw [hired]; exact List.mem_range.mp member)).2

/-! ### The session that is carried out -/

/-- An invariant of an undisturbed run: no user ends by a demand while it holds, and it holds until
the director does not wait any more. -/
structure Guards (plan : Plan τ) (body : Body τ β) (holds : RunView τ β → Prop) : Prop where
  calm : ∀ v, holds v → Undisturbed plan v
  tame : ∀ s : RunState τ β, holds s.view → ∀ (i : Nat) (w : Worker (VirtualUser τ β)),
    s.workers[i]? = some w → Gentle s.world (VirtualUser.work plan body s.glance s.world w.state
      .elapsed)
  kept : ∀ s t : RunState τ β, holds s.view → Moves (system plan body) s t →
    holds t.view ∨ Over t.view

variable {holds : RunView τ β → Prop} {transport : Http.Transport τ}

/-- An invariant guards a run if the turns of its users keep it and are gentle, and if it holds when
the director has begun the run. -/
theorem Guards.of_steps (calm : ∀ v, holds v → Undisturbed plan v)
    (tame : ∀ s : RunState τ β, holds s.view → ∀ (i : Nat) (w : Worker (VirtualUser τ β)),
      s.workers[i]? = some w →
        Gentle s.world (VirtualUser.work plan body s.glance s.world w.state .elapsed))
    (work : ∀ s : RunState τ β, holds s.view → ∀ (i : Nat) (w : Worker (VirtualUser τ β)),
      s.workers[i]? = some w → w.outcome? = none → holds (runWorker (system plan body) s i).view)
    (begin_ : ∀ s : RunState τ β, holds s.view → s.view.crew = [] →
      s.view.supervisor.reports = [] → holds (s.view.afterCommand
        ({ s.view.supervisor with tasks := [] }.begin plan s.glance s.view.world))) :
    Guards plan body holds := by
  refine ⟨calm, tame, ?_⟩
  intro s t held moves
  -- Only the turn of the director needs the case of its setting: all else keeps it.
  cases moves with
  | reschedule same => exact .inl (same ▸ held)
  | worker i w found active => exact .inl (work s held i w found active)
  | supervisor working =>
    have kept := (calm _ held).kept
    cases (calm _ held).setting with
    | ahead phase tasks reports nobody =>
      left
      rw [view_runSupervisor (system plan body) s kept working, supervise_of_ahead phase tasks]
      exact begin_ s held nobody reports
    | watching start phase tasks reports crew hired =>
      exact .inr (over_supervise kept working tasks)
  | interrupt taken =>
    -- A signal is not among what happens, as none is on its way.
    have silent := (calm _ held).silent
    rw [taken] at silent
    cases silent

/-- The invariant holds under every schedule as long as the director waits. -/
theorem Guards.reaches (guards : Guards plan body holds) {now : τ}
    (begins : holds (initial [.run] transport now : RunState τ β).view) {s : RunState τ β}
    (moves : Relation.ReflTransGen (Moves (system plan body)) (initial [.run] transport now) s) :
    holds s.view ∨ Over s.view := by
  induction moves with
  | refl => exact .inl begins
  | tail _ move ih =>
    rcases ih with held | past
    · exact guards.kept _ _ held move
    · exact .inr (over_changes past (changes_of_happens plan body (.moved move)))

/-- No user ends by a demand. -/
theorem Guards.demandless (guards : Guards plan body holds) {s : RunState τ β}
    (held : holds s.view) {i : Nat} {w : Worker (VirtualUser τ β)} (found : s.workers[i]? = some w)
    {outcome : Outcome} (ends : ((system plan body).work s.glance s.world w.state
      (if w.dismissed then .dismissed else .elapsed)).pause = .finish outcome) :
    outcome.demand? = none := by
  have placed : s.view.crew[i]? = some w.standing := by simp [State.view, found]
  have undismissed : w.dismissed = false :=
    (guards.calm _ held).undismissed _ (List.mem_of_getElem? placed)
  rw [if_neg (by simp [undismissed])] at ends
  have ordinary := (guards.tame s held i w found).outcome
  -- The system's work of a user is the user's own, by definition.
  rw [show (VirtualUser.work plan body s.glance s.world w.state .elapsed).pause =
    .finish outcome from ends] at ordinary
  rcases ordinary with none_ | returned
  · cases none_
  · cases returned
    rfl

/-- The director of an undisturbed run is attentive when it has begun. -/
theorem attentive_begin (users : 0 < min plan.options.vus plan.options.iterations)
    {s : RunState τ β} (attentive : Attentive s) (ready : s.attention = .ready)
    (kept : s.givenUp = false) (nobody : s.view.crew = []) (phase : s.supervisor.phase = .idle)
    (tasks : s.supervisor.tasks = [.run]) :
    Attentive (runSupervisor (system plan body) s) ∧
      (runSupervisor (system plan body) s).attention ≠ .asleep := by
  -- Nobody was hired before, so the new ones get the first places.
  have crew : (List.range (min plan.options.vus plan.options.iterations)).map
      (s.glance.outcomes.length + ·) =
        List.range (min plan.options.vus plan.options.iterations) := by
    simp [outcomes_of_nobody nobody]
  have begins : (system plan body).supervise s.glance s.world s.supervisor =
      { s.supervisor with tasks := [] }.begin plan s.glance s.world :=
    supervise_of_ahead phase tasks
  unfold Director.begin at begins
  dsimp only at begins
  rw [crew] at begins
  constructor
  · apply attentive.runSupervisor kept ready
    · rw [begins]
      nofun
    · rw [begins]
      rintro crew' limit ⟨⟩
      refine ⟨List.nodup_range, fun i member => ?_⟩
      have inside := List.mem_range.mp member
      rw [List.length_map, List.length_range]
      omega
  · rw [runSupervisor_of_kept (system plan body) kept, begins]
    -- As there are users, the wait is not over at once.
    simp [State.pauseSupervisor, State.await, State.setTimer, Nat.ne_of_gt users]

/-- What holds of a session with one run at every step, until its director does not wait any
more. -/
structure Underway (plan : Plan τ) (body : Body τ β) (transport : Http.Transport τ) (now : τ)
    (s : RunState τ β) : Prop where
  moves : Relation.ReflTransGen (Moves (system plan body)) (initial [.run] transport now) s
  inTurn : InTurn s
  attentive : Attentive s ∧ s.attention ≠ .asleep ∨ Over s.view

theorem underway_initial (now : τ) :
    Underway plan body transport now (initial [.run] transport now) :=
  ⟨.refl, inTurn_initial [.run] transport now, .inl ⟨attentive_new now _ _, nofun⟩⟩

/-- The turn of an attentive director makes it wait, or ends its wait. -/
theorem attentive_supervise (users : 0 < min plan.options.vus plan.options.iterations)
    {s : RunState τ β} (attentive : Attentive s) (ready : s.attention = .ready)
    (calm : Undisturbed plan s.view) :
    Attentive (runSupervisor (system plan body) s) ∧
        (runSupervisor (system plan body) s).attention ≠ .asleep ∨
      Over (runSupervisor (system plan body) s).view := by
  cases calm.setting with
  | ahead phase tasks reports nobody =>
    exact .inl (attentive_begin users attentive ready calm.kept nobody phase tasks)
  | watching start phase tasks reports crew hired =>
    exact .inr (over_supervise calm.kept calm.working tasks)

theorem underway_step (guards : Guards plan body holds)
    (users : 0 < min plan.options.vus plan.options.iterations) {now : τ}
    (begins : holds (initial [.run] transport now : RunState τ β).view) {s t : RunState τ β}
    (underway : Underway plan body transport now s)
    (stepped : step (system plan body) s = some t) : Underway plan body transport now t := by
  obtain ⟨moves, inTurn, attentive⟩ := underway
  have later := moves_step (system plan body) s t inTurn stepped
  refine ⟨moves.trans later, inTurn_step _ s t inTurn stepped, ?_⟩
  have over_later (past : Over s.view) : Over t.view :=
    kept_of_reaches plan body (motive := Over) (fun _ _ => over_changes) past
      (reaches_of_moves plan body later)
  rcases attentive with ⟨attentive, awake⟩ | past
  · rcases guards.reaches begins moves with held | past
    · -- Only its own turn can end the wait of the director; after every other step it is attentive.
      by_cases own : ∃ rest, s.round = .turn .supervisor :: rest
      · obtain ⟨rest, round⟩ := own
        have dropped := view_drop s _ rest round (by simp)
        obtain rfl : runSupervisor (system plan body) { s with round := rest } = t := by
          simpa [step, attentive.calm, round, run] using stepped
        have ready := inTurn.attention_of_mem (by simp [State.jobs, round])
        rw [← dropped] at held
        exact attentive_supervise users (attentive.drop round (by simp)) ready
          (guards.calm _ held)
      · have other (rest : List Job) : s.round ≠ .turn .supervisor :: rest :=
          fun round => own ⟨rest, round⟩
        exact .inl ⟨attentive_step _ s t attentive inTurn stepped other
            fun i rest w outcome round found ends => guards.demandless held found ends,
          awake_step _ s t awake inTurn stepped other
            fun i rest w outcome round found ends => guards.demandless held found ends⟩
    · exact .inr (over_later past)
  · exact .inr (over_later past)

theorem underway_conduct (guards : Guards plan body holds)
    (users : 0 < min plan.options.vus plan.options.iterations) {now : τ}
    (begins : holds (initial [.run] transport now : RunState τ β).view) (budget : Nat)
    {s : RunState τ β} (underway : Underway plan body transport now s) :
    Underway plan body transport now (conduct (system plan body) budget s) := by
  induction budget generalizing s with
  | zero => exact underway
  | succ budget ih =>
    unfold conduct
    split
    · exact underway
    · split
      · exact underway
      next t stepped => exact ih (underway_step guards users begins underway stepped)

/-- What holds when a session is over: its director has finished and everyone has ended. -/
structure Past (v : RunView τ β) : Prop where
  finished : v.finished = true
  ended : ∀ entry ∈ roster v.crew, entry.2 ≠ none

/-- What happens when a session is over changes neither its reports nor what it recorded. -/
theorem past_of_happens {s t : RunState τ β} (past : Past s.view)
    (happens : Happens plan body s t) :
    Past t.view ∧ t.supervisor = s.supervisor ∧ Untouched s.world t.world := by
  obtain ⟨finished, ended⟩ := past
  -- It is enough to look at the view, of which only the world may be a different one.
  suffices shown : t.view.finished = true ∧ roster t.view.crew = roster s.view.crew ∧
      t.view.supervisor = s.view.supervisor ∧ Untouched s.view.world t.view.world from
    ⟨⟨shown.1, by rw [shown.2.1]; exact ended⟩, shown.2.2⟩
  cases happens with
  | moved moves =>
    cases moves with
    | reschedule same =>
      rw [same]
      exact ⟨finished, rfl, rfl, .refl _⟩
    | worker i w found active =>
      -- Who has ended takes no turn any more.
      have seated : (w.state, w.outcome?) ∈ roster s.view.crew := by
        refine List.mem_map.mpr ⟨w.standing, ?_, rfl⟩
        exact List.mem_map_of_mem (List.mem_of_getElem? found)
      exact absurd active (ended _ seated)
    | supervisor working =>
      rw [finished] at working
      cases working
    | interrupt taken =>
      rw [taken] at finished ⊢
      rw [view_runInterrupt]
      exact ⟨finished, rfl, rfl, untouched_signalled _⟩
  | signalled handled =>
    rw [State.view_enqueue_interrupt]
    exact ⟨finished, rfl, rfl, .refl _⟩
  | asked =>
    rw [view_askToStop]
    exact ⟨finished, rfl, rfl, untouched_requestStop _⟩
  | dismissed i =>
    rw [State.view_dismiss]
    exact ⟨finished, roster_dismissAt _ i, rfl, .refl _⟩
  | givenUp =>
    rw [State.view_dismissSupervisor, if_pos finished]
    exact ⟨finished, rfl, rfl, .refl _⟩

theorem past_of_reaches {s t : RunState τ β} (past : Past s.view)
    (reaches : Reaches plan body s t) :
    Past t.view ∧ t.supervisor = s.supervisor ∧ Untouched s.world t.world := by
  induction reaches with
  | refl => exact ⟨past, rfl, .refl _⟩
  | tail _ happens ih =>
    obtain ⟨later, same, untouched⟩ := ih
    obtain ⟨past', same', untouched'⟩ := past_of_happens later happens
    exact ⟨past', same'.trans same, untouched.trans untouched'⟩

/-- A director without a task finishes. -/
theorem supervise_of_done {g : Glance τ} {w : World τ} {d : Director τ} (phase : d.phase = .idle)
    (tasks : d.tasks = []) : (Director.supervise plan g w d : Director.RunCommand τ β) =
      { world := w, state := d, order := .finish } := by
  simp [Director.supervise, phase, tasks]

/-- A director that completes its last run has finished two steps later. -/
theorem conduct_complete {s : RunState τ β} {rest : List Job} {start : τ}
    (round : s.round = .turn .supervisor :: rest) (calm : s.demand = none)
    (kept : s.givenUp = false) (working : s.view.finished = false)
    (completing : Completing plan body s start) :
    (conduct (system plan body) 2 s).attention = .finished ∧
      (conduct (system plan body) 2 s).view.crew = s.view.crew ∧
      (conduct (system plan body) 2 s).world =
        (s.supervisor.complete plan s.glance s.world start : Director.RunCommand τ β).world ∧
      (conduct (system plan body) 2 s).supervisor =
        (s.supervisor.complete plan s.glance s.world start : Director.RunCommand τ β).state := by
  obtain ⟨completes, tasks, -, -⟩ := completing
  have busy : s.attention ≠ .finished := by
    intro finished
    simp [State.view, finished, Attention.isFinished] at working
  generalize made : (s.supervisor.complete plan s.glance s.world start :
    Director.RunCommand τ β) = command at *
  obtain ⟨idle, done, plain⟩ : command.state.phase = .idle ∧ command.state.tasks = [] ∧
      command = { world := command.world, state := command.state, order := .goOn } := by
    subst made
    exact ⟨rfl, tasks, rfl⟩
  rw [plain] at completes
  -- The first step carries out the command, with which the director turns to its next task.
  let completed : RunState τ β :=
    { s with round := rest, world := command.world, supervisor := command.state }
  have completing : runSupervisor (system plan body) { s with round := rest } =
      completed.proceed .supervisor :=
    runSupervisor_of_plain (system plan body) (s := { s with round := rest }) kept completes
  have first := (step_of_round (system plan body) s calm round).trans (congrArg some completing)
  -- As there is none left, it finishes with the second.
  have finishing : runSupervisor (system plan body) completed =
      ({ completed with attention := .finished } : RunState τ β).enqueue .close :=
    runSupervisor_of_plain (system plan body) (s := completed) kept (supervise_of_done idle done)
  have second := (step_of_round (system plan body) (completed.proceed .supervisor) calm rfl).trans
    (congrArg some finishing)
  have busy' : (completed.proceed .supervisor).attention ≠ .finished := busy
  rw [conduct, if_neg busy, first]
  dsimp only
  rw [conduct, if_neg busy', second]
  exact ⟨rfl, rfl, rfl, rfl⟩

/-- While the director waits for users that have all ended, an invariant holds of the run, and the
director is about to complete it. -/
theorem Guards.completes (guards : Guards plan body holds) {now : τ}
    (begins : holds (initial [.run] transport now : RunState τ β).view) {s : RunState τ β}
    (moves : Relation.ReflTransGen (Moves (system plan body)) (initial [.run] transport now) s)
    (finished : Finished s) : holds s.view ∧ ∃ start, Completing plan body s start := by
  obtain ⟨start, watching⟩ := finished.watching
  have held := (guards.reaches begins moves).resolve_right fun past => past.2 start watching
  exact ⟨held, completes_of_undisturbed (guards.calm _ held) finished⟩

/-- The turn of the director comes in a finished run, and nothing shows until then. -/
theorem Guards.comes (guards : Guards plan body holds) {now : τ}
    (begins : holds (initial [.run] transport now : RunState τ β).view) {s : RunState τ β}
    (underway : Underway plan body transport now s) (finished : Finished s) :
    ∃ k rest, (conduct (system plan body) k s).view = s.view ∧
      Waiting (conduct (system plan body) k s) ∧ Finished (conduct (system plan body) k s) ∧
      (conduct (system plan body) k s).round = .turn .supervisor :: rest := by
  obtain ⟨moves, inTurn, attentive⟩ := underway
  obtain ⟨held, -⟩ := guards.completes begins moves finished
  have calm := guards.calm _ held
  obtain ⟨start, watching⟩ := finished.watching
  obtain ⟨attentive, awake⟩ := attentive.resolve_right fun past => past.2 start watching
  have waiting : Waiting s :=
    ⟨attentive, inTurn, finished.standing, calm.silent, calm.working, awake⟩
  obtain ⟨k, rest, waits, view, round⟩ := comes_to_supervisor (system plan body) s waiting
  have supervisor : (conduct (system plan body) k s).supervisor = s.supervisor :=
    congrArg View.supervisor view
  refine ⟨k, rest, view, waits, ⟨⟨start, by rw [supervisor]; exact watching⟩, ?_⟩, round⟩
  intro w here
  exact waits.ended _ (List.mem_map_of_mem here)

/-- A session whose director completes its last run at some point ends with what it reports then. -/
theorem perform_of_completing {now : τ} {n : Nat} {t : RunState τ β} {rest : List Job} {start : τ}
    (reached : conduct (system plan body) n (initial [.run] transport now) = t)
    (waits : Waiting t) (kept : t.givenUp = false) (round : t.round = .turn .supervisor :: rest)
    (completing : Completing plan body t start) {budget : Nat} (enough : n + 2 ≤ budget) :
    (perform plan body [.run] transport now budget).reports =
        (t.supervisor.complete plan t.glance t.world start :
          Director.RunCommand τ β).state.reports.reverse ∧
      Untouched t.world (perform plan body [.run] transport now budget).world := by
  obtain ⟨ends, crew, world, last⟩ := conduct_complete round waits.attentive.calm kept
    waits.working completing
  obtain ⟨more, rfl⟩ := Nat.exists_eq_add_of_le enough
  have conducted : conduct (system plan body) (n + 2 + more) (initial [.run] transport now) =
      conduct (system plan body) 2 t := by
    rw [conduct_add, conduct_add, reached, conduct_of_finished _ _ _ ends]
  obtain ⟨-, inTurn⟩ := reaches_conduct plan body 2 t waits.inTurn
  have windsUp := reaches_windUp plan body (n + 2 + more) ampleRounds _ inTurn
  have past : Past (conduct (system plan body) 2 t).view := by
    refine ⟨by simp [State.view, ends, Attention.isFinished], ?_⟩
    rw [crew]
    intro entry member
    obtain ⟨standing, here, rfl⟩ := List.mem_map.mp member
    exact waits.ended standing here
  -- What happens later changes nothing.
  obtain ⟨-, same, untouched⟩ := past_of_reaches past windsUp
  rw [world] at untouched
  have completed := (goesOn_complete (β := β) plan t.supervisor t.glance t.world start).untouched
  unfold perform
  dsimp only
  rw [conducted]
  exact ⟨by rw [same, last], completed.trans untouched⟩

/-- If all users of a session with one run end while the director waits, the director completes the
run, and what is carried out ends with the report that it makes. -/
theorem perform_of_guards (guards : Guards plan body holds)
    (users : 0 < min plan.options.vus plan.options.iterations) {now : τ}
    (begins : holds (initial [.run] transport now : RunState τ β).view) {k : Nat}
    (finished : Finished (conduct (system plan body) k (initial [.run] transport now))) :
    ∃ enough t start,
      Relation.ReflTransGen (Moves (system plan body)) (initial [.run] transport now) t ∧
        Finished t ∧ Completing plan body t start ∧
        ∀ budget, enough ≤ budget →
          (perform plan body [.run] transport now budget).reports =
            (t.supervisor.complete plan t.glance t.world start :
              Director.RunCommand τ β).state.reports.reverse ∧
          Untouched t.world (perform plan body [.run] transport now budget).world := by
  have underway := underway_conduct guards users begins k (underway_initial now)
  obtain ⟨k', rest, view, waits, finished', round⟩ := guards.comes begins underway finished
  rw [← conduct_add] at view waits finished' round
  have moves := underway.moves.tail (.reschedule view)
  obtain ⟨held, start, completing⟩ := guards.completes begins moves finished'
  exact ⟨k + k' + 2, _, start, moves, finished', completing, fun budget enough =>
    perform_of_completing rfl waits (guards.calm _ held).kept round completing enough⟩

end Turns

end Run

end Volley
