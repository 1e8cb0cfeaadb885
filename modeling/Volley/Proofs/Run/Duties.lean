import Volley.Proofs.Run.Commands

/-!
# The duties of the director

While a run is on, its director waits: for the users, then for those that overran, and after a
failure for those that are left. Each turn of it begins such a wait, or ends the run with a report.
Here it is told once what a turn can do, with all that it depends on.

## Main definitions

- `Run.Remarks`: what the director writes into the history.
- `Run.Wait`: the waits, and what each of them follows on.
- `Run.Verdict`: the ends of a run.
- `Run.Duty`: what a turn of the director does.

## Main results

- `duty_supervise`: every turn does one of these.
-/

namespace Volley

namespace Run

open Pool

variable {τ β : Type}

/-! ### What the director writes -/

/-- An event that the director may write at a time at which it dismisses some workers. -/
def Event.ByDirector (now : τ) (dismissed : List Nat) : Event τ → Prop
  | .logged _ | .handlerChanged _ _ => True
  | .dismissed worker time => worker ∈ dismissed ∧ time = now
  | _ => False

/-- What a director that goes on with a run does to the world, its lifecycle and its handlers
apart. -/
structure Remarks (now : τ) (dismissed : List Nat) (w w' : World τ) : Prop where
  untouched : Untouched w w'
  crew : w'.crew = w.crew
  history : ∃ latest, w'.history = latest ++ w.history ∧
    ∀ event ∈ latest, event.ByDirector now dismissed

section Remarks

variable {now : τ} {dismissed : List Nat}

theorem Remarks.refl (w : World τ) : Remarks now dismissed w w :=
  ⟨.refl w, rfl, [], rfl, nofun⟩

theorem Remarks.trans {w w' w'' : World τ} (first : Remarks now dismissed w w')
    (second : Remarks now dismissed w' w'') : Remarks now dismissed w w'' := by
  obtain ⟨latest, wrote, may⟩ := first.history
  obtain ⟨latest', wrote', may'⟩ := second.history
  refine ⟨first.untouched.trans second.untouched, second.crew.trans first.crew, latest' ++ latest,
    by rw [wrote', wrote, List.append_assoc], ?_⟩
  intro event member
  exact (List.mem_append.mp member).elim (may' event) (may event)

/-- Who may dismiss nobody may do the rest as well where it dismisses. -/
theorem Remarks.dismissing {w w' : World τ} (remarks : Remarks now [] w w')
    (dismissed : List Nat) : Remarks now dismissed w w' := by
  obtain ⟨latest, wrote, may⟩ := remarks.history
  refine ⟨remarks.untouched, remarks.crew, latest, wrote, ?_⟩
  intro event member
  have mayWrite := may event member
  cases event with
  | dismissed worker time => exact absurd mayWrite.1 List.not_mem_nil
  | _ => exact mayWrite

theorem remarks_record (w : World τ) {event : Event τ} (other : event.lap? = none)
    (may : event.ByDirector now dismissed) : Remarks now dismissed w (w.record event) :=
  ⟨untouched_record w event other, rfl, [event], rfl, by simpa using may⟩

theorem remarks_log (w : World τ) (entry : Journal.Entry τ) :
    Remarks now dismissed w (w.log entry) :=
  remarks_record w rfl trivial

theorem remarks_lifecycle (w : World τ) (lifecycle : Lifecycle) :
    Remarks now dismissed w { w with lifecycle } :=
  ⟨untouched_lifecycle w lifecycle, rfl, [], rfl, nofun⟩

/-- A change of the handlers is told signal by signal. -/
theorem remarks_changeHandlers (w : World τ) (installed : Bool) :
    Remarks now dismissed w (w.changeHandlers installed) := by
  apply List.foldlRecOn (motive := Remarks now dismissed w) signals
  · exact ⟨⟨rfl, rfl, rfl⟩, rfl, [], rfl, nofun⟩
  · intro w' before signal _
    exact before.trans (remarks_record w' rfl trivial)

theorem remarks_removeHandlers (plan : Plan τ) (w : World τ) :
    Remarks now dismissed w (Director.removeHandlers plan w) := by
  unfold Director.removeHandlers
  split
  · exact remarks_changeHandlers w false
  · exact .refl w

theorem remarks_requestStop (now : τ) (w : World τ) : Remarks now [] w w.requestStop.2 := by
  unfold World.requestStop
  split
  · exact (remarks_log w _).trans (remarks_lifecycle _ .stopping)
  · exact .refl w

/-- The director notes whom it dismisses. -/
theorem remarks_dismissed (workers : List Nat) (w : World τ)
    (known : ∀ worker ∈ workers, worker ∈ dismissed) :
    Remarks now dismissed w
      (workers.foldl (fun w worker => w.record (.dismissed worker now)) w) := by
  apply List.foldlRecOn (motive := Remarks now dismissed w) workers _ (.refl w)
  intro w' before worker member
  exact before.trans (remarks_record w' rfl ⟨known worker member, rfl⟩)

end Remarks

/-! ### Waits and verdicts -/

/-- Whether nobody has to be waited for any more in a stage of a shutdown. -/
def Waited (g : Glance τ) : Shutdown.Stage → Prop
  | .grace crew => g.pending crew = []
  | .settling _ => True

/-- A wait of the director: the phase that it follows on and its own phase, the lifecycle in it, who
is dismissed when it begins, for whom it is and how long. -/
inductive Wait [Scalar τ] (g : Glance τ) (w : World τ) :
    Phase τ → Phase τ → Lifecycle → List Nat → List Nat → τ → Prop
  /-- Some have not ended in the time of the run. -/
  | overrun (start : τ) (left : g.pending w.crew ≠ []) :
      Wait g w (.watching start)
        (.draining start (Director.firstFailure g w.crew) (.grace (g.pending w.crew))) .stopping
        [] (g.pending w.crew) Shutdown.grace
  | drain (start : τ) (failure : Option Fault) (crew : List Nat) (left : g.pending crew ≠ []) :
      Wait g w (.draining start failure (.grace crew))
        (.draining start failure (.settling (g.pending crew).length)) w.lifecycle
        (g.pending crew) (g.pending crew) Shutdown.settle
  /-- The run has failed, and some have outlived its first shutdown. -/
  | fail (start : τ) (cause : Fault) (stage : Shutdown.Stage) (past : Waited g stage)
      (ordinary : cause.isOrdinary = true) (left : g.pending w.crew ≠ []) :
      Wait g w (.draining start (some cause) stage)
        (.failing cause (.grace (g.pending w.crew))) .failed [] (g.pending w.crew) Shutdown.grace
  | settle (cause : Fault) (crew : List Nat) (left : g.pending crew ≠ []) :
      Wait g w (.failing cause (.grace crew)) (.failing cause (.settling (g.pending crew).length))
        w.lifecycle (g.pending crew) (g.pending crew) Shutdown.settle

/-- Since when the run has gone whose waits are over, and the failure that was found in it. -/
inductive Concludes (g : Glance τ) (w : World τ) : Phase τ → τ → Option Fault → Prop
  | watched (start : τ) (failure : Option Fault)
      (found : Director.firstFailure g w.crew = failure) (ended : g.pending w.crew = []) :
      Concludes g w (.watching start) start failure
  | drained (start : τ) (failure : Option Fault) (stage : Shutdown.Stage) (past : Waited g stage) :
      Concludes g w (.draining start failure stage) start failure

/-- How a run ends: the phase that it ends in, the lifecycle that it leaves and what is reported. -/
inductive Verdict (g : Glance τ) (w : World τ) : Phase τ → Lifecycle → Ending τ → Prop
  | completed {phase : Phase τ} {start : τ} (past : Concludes g w phase start none)
      (result : RunResult τ) (starts : result.startTime = start) (ends : result.endTime = g.now) :
      Verdict g w phase .completed (.result result)
  | failed {phase : Phase τ} {start : τ} {cause : Fault}
      (past : Concludes g w phase start (some cause)) (ordinary : cause.isOrdinary = true)
      (ended : g.pending w.crew = []) : Verdict g w phase .failed (.failed cause)
  | settled (cause : Fault) (stage : Shutdown.Stage) (past : Waited g stage) :
      Verdict g w (.failing cause stage) w.lifecycle (.failed cause)
  | aborted {phase : Phase τ} {start : τ} {fault : Fault}
      (past : Concludes g w phase start (some fault)) (grave : fault.isOrdinary = false) :
      Verdict g w phase w.lifecycle (.aborted fault)

/-- Waits belong to a run. -/
theorem busy_of_wait [Scalar τ] {g : Glance τ} {w : World τ} {phase phase' : Phase τ}
    {lifecycle : Lifecycle} {dismiss crew : List Nat} {limit : τ}
    (wait : Wait g w phase phase' lifecycle dismiss crew limit) : phase ≠ .idle := by
  cases wait <;> nofun

/-- Verdicts belong to a run. -/
theorem busy_of_verdict {g : Glance τ} {w : World τ} {phase : Phase τ} {lifecycle : Lifecycle}
    {ending : Ending τ} (verdict : Verdict g w phase lifecycle ending) : phase ≠ .idle := by
  have concluded {start : τ} {failure : Option Fault} (past : Concludes g w phase start failure) :
      phase ≠ .idle := by
    cases past <;> nofun
  cases verdict with
  | completed past result starts ends => exact concluded past
  | failed past ordinary ended => exact concluded past
  | settled cause stage past => nofun
  | aborted past grave => exact concluded past

/-! ### Duties -/

/-- What holds of every command of a director that goes on with a run. -/
structure Carries (g : Glance τ) (w : World τ) (d : Director τ)
    (command : Director.RunCommand τ β) : Prop where
  remarks : Remarks g.now command.dismiss w command.world
  hire : command.hire = []
  tasks : command.state.tasks = d.tasks

/-- What a turn of the director does. -/
inductive Duty [Scalar τ] (plan : Plan τ) (g : Glance τ) (w : World τ) (d : Director τ)
    (command : Director.RunCommand τ β) : Prop
  | finishes (idle : d.phase = .idle) (tasks : d.tasks = [])
      (same : command = { world := w, state := d, order := .finish })
  | begins (rest : List Task) (idle : d.phase = .idle) (tasks : d.tasks = .run :: rest)
      (same : command = { d with tasks := rest }.begin plan g w)
  /-- It asks for a stop, or just looks. -/
  | reports (task : Task) (rest : List Task) (other : task ≠ .run) (idle : d.phase = .idle)
      (tasks : d.tasks = task :: rest) (stop : Bool) (world : World τ)
      (asked : world = w ∨ world = w.requestStop.2)
      (same : command = { d with tasks := rest }.report g world stop .silent)
  | waits (carries : Carries g w d command) (crew : List Nat) (limit : τ)
      (order : command.order = .wait crew (some limit))
      (wait : Wait g w d.phase command.state.phase command.world.lifecycle command.dismiss crew
        limit)
      (reports : command.state.reports = d.reports)
  | ends (carries : Carries g w d command) (dismiss : command.dismiss = [])
      (order : command.order = .goOn) (phase : command.state.phase = .idle) (report : Report τ)
      (reports : command.state.reports = report :: d.reports) (time : report.time = g.now)
      (lifecycle : command.world.lifecycle = report.lifecycle)
      (verdict : Verdict g w d.phase report.lifecycle report.ending)
      (completes : ∀ result, report.ending = .result result → Completes plan w report result)

section Duties

variable [Scalar τ] (plan : Plan τ) (d : Director τ) (g : Glance τ) {w : World τ}

/-- It does not matter here whether a command raises the flag. -/
theorem duty_of_any {command : Director.RunCommand τ β}
    (any : ∀ raise, Duty plan g w d { command with stop := raise }) : Duty plan g w d command :=
  any command.stop

/-- A command that only reports ends the run. -/
theorem duty_report {w' : World τ} (remarks : Remarks g.now [] w w') {ending : Ending τ}
    (verdict : Verdict g w d.phase w'.lifecycle ending) (other : ∀ result, ending ≠ .result result)
    (stop raise : Bool) :
    Duty plan g w d
      ({ d.report g w' stop ending with stop := raise } : Director.RunCommand τ β) :=
  .ends ⟨remarks, rfl, rfl⟩ rfl rfl rfl _ rfl rfl rfl verdict
    fun result same => absurd same (other result)

/-- A run whose waits are over without a failure ends with a result. -/
theorem duty_complete {w' : World τ} (remarks : Remarks g.now [] w w') {start : τ}
    (past : Concludes g w d.phase start none) (raise : Bool) :
    Duty plan g w d
      ({ d.complete plan g w' start with stop := raise } : Director.RunCommand τ β) := by
  have cleared : Remarks g.now [] w (Director.removeHandlers plan w') :=
    remarks.trans (remarks_removeHandlers plan w')
  have completed : Remarks g.now [] w
      (d.complete plan g w' start : Director.RunCommand τ β).world :=
    cleared.trans ((remarks_log _ _).trans
      ((remarks_lifecycle _ .completed).trans (remarks_log _ _)))
  refine .ends ⟨completed, rfl, rfl⟩ rfl rfl rfl _ rfl rfl rfl (.completed past _ rfl rfl) ?_
  -- The result is that of the world before, whose books and collector are the same.
  have goes := (goesOn_complete (β := β) plan d g w' start).of_untouched plan d remarks.untouched
  intro result same
  rcases goes.reports with unchanged | ⟨latest, made, completes⟩
  · simp [Director.complete, Director.report] at unchanged
  · obtain ⟨rfl, -⟩ := List.cons.inj made
    exact completes result same

/-- A shutdown begins a wait, or what comes after it ends the run. -/
theorem duty_shutDown {w' : World τ} (remarks : Remarks g.now [] w w') (stop raise : Bool)
    (progress : Shutdown.Progress τ) (phase : Shutdown.Stage → Phase τ)
    (afterwards : World τ → Director.RunCommand τ β)
    (waits : ∀ dismiss crew limit stage, progress = .waiting dismiss crew limit stage →
      Wait g w d.phase (phase stage) w'.lifecycle dismiss crew limit)
    (ends : ∀ dismissed raise, progress = .ended dismissed →
      Duty plan g w d { afterwards (w'.log (.usersShutDown dismissed)) with stop := raise }) :
    Duty plan g w d
      { d.shutDown g w' stop progress phase afterwards with stop := raise } := by
  unfold Director.shutDown
  split
  next dismiss crew limit stage =>
    -- The dismissals are told by the time at which they are ordered, and nothing else is.
    have dismissed := (remarks.dismissing dismiss).trans
      (remarks_dismissed dismiss w' fun _ => id)
    have lifecycle : (dismiss.foldl (fun w worker => w.record (.dismissed worker g.now))
        w').lifecycle = w'.lifecycle := by
      apply foldl_kept World.lifecycle
      intro w worker
      rfl
    refine .waits ⟨dismissed, rfl, rfl⟩ crew limit rfl ?_ rfl
    dsimp only
    rw [lifecycle]
    exact waits dismiss crew limit stage rfl
  next dismissed => exact ends dismissed raise rfl

/-- A run that fails shuts its users down once more, or ends as failed. -/
theorem duty_failWith {w' : World τ} (remarks : Remarks g.now [] w w') (stop raise : Bool)
    (cause : Fault) (progress : Shutdown.Progress τ)
    (waits : ∀ dismiss crew limit stage, progress = .waiting dismiss crew limit stage →
      Wait g w d.phase (.failing cause stage) w'.lifecycle dismiss crew limit)
    (ends : ∀ dismissed, progress = .ended dismissed →
      Verdict g w d.phase w'.lifecycle (.failed cause)) :
    Duty plan g w d
      ({ d.failWith plan g w' stop cause progress with stop := raise } :
        Director.RunCommand τ β) := by
  apply duty_shutDown plan d g remarks stop raise progress _ _ waits
  intro dismissed raise ended
  have logged : Remarks g.now [] w (w'.log (.usersShutDown dismissed)) :=
    remarks.trans (remarks_log w' _)
  refine duty_report plan d g (logged.trans (remarks_removeHandlers plan _)) ?_ (by simp) false
    raise
  rw [lifecycle_removeHandlers]
  exact ends dismissed ended

/-- A director whose waits are over ends the run, unless it has failed and some are left. -/
theorem duty_conclude {w' : World τ} (remarks : Remarks g.now [] w w')
    (lifecycle : w'.lifecycle = w.lifecycle) {start : τ} {failure : Option Fault}
    (past : Concludes g w d.phase start failure) (raise : Bool) :
    Duty plan g w d
      ({ d.conclude plan g w' start failure with stop := raise } : Director.RunCommand τ β) := by
  cases failure with
  | none => exact duty_complete plan d g remarks past raise
  | some fault =>
    unfold Director.conclude
    dsimp only
    split
    next ordinary =>
      -- An ordinary failure is the cause of the run's own.
      have failed : Remarks g.now [] w ({ w' with lifecycle := .failed }.log .runFailed) :=
        remarks.trans ((remarks_lifecycle w' .failed).trans (remarks_log _ .runFailed))
      have crew : w'.crew = w.crew := remarks.crew
      apply duty_failWith plan d g failed
      · intro dismiss crew' limit stage begun
        unfold Shutdown.begin at begun
        rw [crew] at begun
        split at begun
        · cases begun
        next left =>
          cases begun
          -- Nobody would be left if the users had ended in time.
          have left : g.pending w.crew ≠ [] := by simpa using left
          generalize d.phase = phase at past
          cases past with
          | watched _ _ _ past => exact absurd past left
          | drained _ _ stage past => exact .fail start fault stage past ordinary left
      · intro dismissed ended
        unfold Shutdown.begin at ended
        rw [crew] at ended
        split at ended
        next nobody => exact .failed past ordinary (by simpa using nobody)
        · cases ended
    next grave =>
      -- Any other fault goes on to the caller, without a second shutdown.
      have cleared := remarks.trans (remarks_removeHandlers plan w')
      refine duty_report plan d g cleared ?_ (by simp) false raise
      rw [lifecycle_removeHandlers, lifecycle]
      exact .aborted past (by simpa using grave)

/-- A shutdown is over, or those who are left are dismissed and waited for. -/
theorem resume_cases (stage : Shutdown.Stage) :
    (Waited g stage ∧ ∃ dismissed, (Shutdown.resume g stage : Shutdown.Progress τ) =
      .ended dismissed) ∨
    ∃ crew, stage = .grace crew ∧ g.pending crew ≠ [] ∧
      (Shutdown.resume g stage : Shutdown.Progress τ) =
        .waiting (g.pending crew) (g.pending crew) Shutdown.settle
          (.settling (g.pending crew).length) := by
  cases stage with
  | settling dismissed => exact .inl ⟨trivial, dismissed, rfl⟩
  | grace crew =>
    unfold Shutdown.resume
    dsimp only
    split
    next nobody => exact .inl ⟨by simpa [Waited] using nobody, 0, rfl⟩
    next left => exact .inr ⟨crew, rfl, by simpa using left, rfl⟩

omit [Scalar τ] in
/-- What is written at the beginning of a run is what a director may write. -/
theorem history_begin (w : World τ) : ∃ latest,
    (d.begin plan g w : Director.RunCommand τ β).world.history = latest ++ w.history ∧
      ∀ event ∈ latest, event.ByDirector g.now [] := by
  have warned : Remarks g.now [] w
      (if min plan.options.vus plan.options.iterations < plan.options.vus then
        w.log (.fewerUsers plan.options.vus plan.options.iterations
          (min plan.options.vus plan.options.iterations))
      else w) := by
    split
    · exact remarks_log w _
    · exact .refl w
  have running := warned.trans ((remarks_lifecycle _ .running).trans (remarks_log _
    (.starting plan.scenario (min plan.options.vus plan.options.iterations : Nat)
      plan.options.iterations plan.options.maxDuration)))
  unfold Director.begin
  dsimp only
  split
  · exact (running.trans (remarks_changeHandlers _ true)).history
  · exact running.history

omit [Scalar τ] in
/-- The lifecycle is running when the run has begun. -/
theorem lifecycle_begin (w : World τ) :
    (d.begin plan g w : Director.RunCommand τ β).world.lifecycle = .running := by
  unfold Director.begin
  dsimp only
  split
  · apply foldl_kept World.lifecycle
    intro w signal
    rfl
  · rfl

/-- Whatever its turn, the director does one of its duties. -/
theorem duty_supervise :
    Duty plan g w d (Director.supervise plan g w d : Director.RunCommand τ β) := by
  -- Three phases in which it has waited, and the one in which it turns to its next task.
  unfold Director.supervise
  split
  next start phase =>
    -- The run was watched: it is concluded, or it overran.
    apply duty_of_any
    intro raise
    unfold Director.waited
    dsimp only
    split
    next nobody =>
      have ended : g.pending w.crew = [] := by simpa using nobody
      refine duty_conclude plan d g (.refl w) rfl ?_ raise
      rw [phase]
      exact .watched start _ rfl ended
    next left =>
      -- Somebody is left, so the shutdown begins with a wait.
      have left : g.pending w.crew ≠ [] := by simpa using left
      apply duty_shutDown plan d g ((remarks_log w _).trans (remarks_lifecycle _ .stopping))
      · intro dismiss crew limit stage begun
        rw [Shutdown.begin, if_neg (by simpa using left)] at begun
        cases begun
        rw [phase]
        exact .overrun start left
      · intro dismissed raise ended
        rw [Shutdown.begin, if_neg (by simpa using left)] at ended
        cases ended
  next start failure stage phase =>
    -- A shutdown is over, and the run is concluded; or its second stage begins.
    apply duty_of_any
    intro raise
    apply duty_shutDown plan d g (.refl w)
    · intro dismiss crew limit stage' waits
      rcases resume_cases g stage with ⟨-, _, ended⟩ | ⟨crew', rfl, left, waiting⟩
      · rw [ended] at waits
        cases waits
      · rw [waiting] at waits
        cases waits
        rw [phase]
        exact .drain start failure crew' left
    · intro dismissed raise ended
      rcases resume_cases g stage with ⟨past, -⟩ | ⟨crew', rfl, left, waiting⟩
      · refine duty_conclude plan d g (remarks_log w _) rfl ?_ raise
        rw [phase]
        exact .drained start failure stage past
      · rw [waiting] at ended
        cases ended
  next cause stage phase =>
    -- The same for the shutdown of a run that has failed, which ends with its verdict.
    apply duty_of_any
    intro raise
    apply duty_failWith plan d g (.refl w)
    · intro dismiss crew limit stage' waits
      rcases resume_cases g stage with ⟨-, _, ended⟩ | ⟨crew', rfl, left, waiting⟩
      · rw [ended] at waits
        cases waits
      · rw [waiting] at waits
        cases waits
        rw [phase]
        exact .settle cause crew' left
    · intro dismissed ended
      rcases resume_cases g stage with ⟨past, -⟩ | ⟨crew', rfl, left, waiting⟩
      · rw [phase]
        exact .settled cause stage past
      · rw [waiting] at ended
        cases ended
  next idle =>
    split
    next tasks => exact .finishes idle tasks rfl
    next rest tasks => exact .begins rest idle tasks rfl
    next rest tasks =>
      exact .reports .stop rest (by simp) idle tasks w.requestStop.1 _ (.inr rfl) rfl
    next rest tasks => exact .reports .look rest (by simp) idle tasks false _ (.inl rfl) rfl

omit d g in
/-- Whatever its duty, the director leaves the books alone. -/
theorem untouched_duty {g : Glance τ} {d : Director τ} {command : Director.RunCommand τ β}
    (duty : Duty plan g w d command) : Untouched w command.world := by
  cases duty with
  | finishes idle tasks same =>
    rw [same]
    exact .refl w
  | begins rest idle tasks same =>
    rw [same]
    exact untouched_begin plan _ g w
  | reports task rest other idle tasks stop world asked same =>
    rw [same]
    rcases asked with rfl | rfl
    · exact .refl _
    · exact untouched_requestStop w
  | waits carries crew limit order wait reports => exact carries.remarks.untouched
  | ends carries dismiss order phase report reports time lifecycle verdict completes =>
    exact carries.remarks.untouched

omit d g in
/-- Whatever its duty, the director only adds to the history. -/
theorem history_duty {g : Glance τ} {d : Director τ} {command : Director.RunCommand τ β}
    (duty : Duty plan g w d command) : ∃ latest, command.world.history = latest ++ w.history ∧
      ∀ event ∈ latest, event.ByDirector g.now command.dismiss := by
  cases duty with
  | finishes idle tasks same => exact ⟨[], by rw [same]; rfl, nofun⟩
  | begins rest idle tasks same =>
    rw [same]
    exact history_begin plan _ g w
  | reports task rest other idle tasks stop world asked same =>
    rw [same]
    rcases asked with rfl | rfl
    · exact ⟨[], rfl, nofun⟩
    · exact (remarks_requestStop g.now w).history
  | waits carries crew limit order wait reports => exact carries.remarks.history
  | ends carries dismiss order phase report reports time lifecycle verdict completes =>
    exact carries.remarks.history

omit d g in
/-- Whatever its duty, the director hires users that have not entered yet. -/
theorem outside_of_duty {g : Glance τ} {d : Director τ} {command : Director.RunCommand τ β}
    (duty : Duty plan g w d command) : ∀ user ∈ command.hire, user.stage = .outside := by
  have nobody (hire : command.hire = []) : ∀ user ∈ command.hire, user.stage = .outside := by
    intro user hired
    rw [hire] at hired
    cases hired
  cases duty with
  | finishes idle tasks same => exact nobody (by rw [same])
  | begins rest idle tasks same =>
    intro user hired
    rw [same] at hired
    obtain ⟨vu, -, rfl⟩ := List.mem_map.mp hired
    rfl
  | reports task rest other idle tasks stop world asked same =>
    exact nobody (by rw [same, Director.report])
  | waits carries crew limit order wait reports => exact nobody carries.hire
  | ends carries dismiss order phase report reports time lifecycle verdict completes =>
    exact nobody carries.hire

end Duties

end Run

end Volley
