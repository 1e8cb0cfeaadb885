import Volley.Proofs.Run.Books
import Volley.Run.Director

/-!
# The commands of the director

A turn of the director begins a run, or it goes on with what was begun before. It never writes into
the books, and what it reports as the result of a run is the summary of what was collected.

## Main definitions

- `Run.Completes`: a report tells of a completed run.
- `Run.GoesOn`: what a command does that begins nothing.

## Main results

- `report_complete`: a run that is completed gives a result.
- `supervise_cases`: every turn of the director begins a run or goes on.
-/

namespace Volley

namespace Run

open Pool

variable {τ β : Type}

theorem untouched_removeHandlers (plan : Plan τ) (w : World τ) :
    Untouched w (Director.removeHandlers plan w) := by
  unfold Director.removeHandlers
  split
  · exact untouched_changeHandlers w false
  · exact .refl w

theorem lifecycle_removeHandlers (plan : Plan τ) (w : World τ) :
    (Director.removeHandlers plan w).lifecycle = w.lifecycle := by
  unfold Director.removeHandlers
  split
  · -- Each signal is put back by a record, which the lifecycle is not in.
    apply foldl_kept World.lifecycle
    intro w signal
    rfl
  · rfl

theorem untouched_giveUp (plan : Plan τ) (w : World τ) (d : Director τ) :
    Untouched w (Director.giveUp plan w d) := by
  unfold Director.giveUp
  split
  · exact untouched_removeHandlers plan w
  · exact untouched_removeHandlers plan w
  all_goals exact .refl w

theorem lifecycle_giveUp (plan : Plan τ) (w : World τ) (d : Director τ) :
    (Director.giveUp plan w d).lifecycle = w.lifecycle := by
  unfold Director.giveUp
  -- Handlers are installed only while a run goes on, so else there are none to remove.
  split
  · exact lifecycle_removeHandlers plan w
  · exact lifecycle_removeHandlers plan w
  all_goals rfl

/-- A report tells of a completed run: its result is the summary of what was collected. -/
structure Completes [Scalar τ] (plan : Plan τ) (w : World τ) (report : Report τ)
    (result : RunResult τ) : Prop where
  lifecycle : report.lifecycle = .completed
  claimed : report.claimed = w.claimed
  vus : result.vus = (min plan.options.vus plan.options.iterations : Nat)
  planned : result.iterationsPlanned = plan.options.iterations
  summary : result.summary = some (w.collector.summarize result.duration)
  interrupted : result.interrupted = decide
    (((w.collector.iterations : Int) + w.collector.errorCount) < plan.options.iterations)

def World.ending (w : World τ) : Prop :=
  w.lifecycle = .stopping ∨ w.lifecycle = .failed

def Phase.shutsDown : Phase τ → Bool
  | .draining _ _ _ | .failing _ _ => true
  | _ => false

/-- A command that goes on with what was begun before: it hires nobody, touches nothing and reports
at most once. It raises the flag where a shutdown begins, and only in a run that ends. -/
structure GoesOn [Scalar τ] (plan : Plan τ) (w : World τ) (d : Director τ)
    (command : Director.RunCommand τ β) : Prop where
  untouched : Untouched w command.world
  hire : command.hire = []
  tasks : command.state.tasks = d.tasks
  phase : ∀ start, command.state.phase ≠ .watching start
  reports : command.state.reports = d.reports ∨
    ∃ report, command.state.reports = report :: d.reports ∧
      ∀ result, report.ending = .result result → Completes plan w report result
  stop : command.stop = true → command.world.ending
  shuts : command.state.phase.shutsDown = true → command.stop = true ∨ d.phase.shutsDown = true

variable [Scalar τ] (plan : Plan τ) (d : Director τ) (g : Glance τ)

theorem GoesOn.of_untouched {w w' : World τ} {command : Director.RunCommand τ β}
    (untouched : Untouched w w') (goes : GoesOn plan w' d command) : GoesOn plan w d command := by
  refine ⟨untouched.trans goes.untouched, goes.hire, goes.tasks, goes.phase, ?_, goes.stop,
    goes.shuts⟩
  rcases goes.reports with same | ⟨report, made, completes⟩
  · exact .inl same
  · refine .inr ⟨report, made, ?_⟩
    intro result ending
    obtain ⟨lifecycle, claimed, vus, planned, summary, interrupted⟩ := completes result ending
    -- A report is of the world that it is made in, which has the same books and the same
    -- collector.
    have sameClaimed := congrArg Books.claimed untouched.books
    refine ⟨lifecycle, claimed.trans sameClaimed, vus, planned, ?_, ?_⟩
    · rw [summary, untouched.collector]
    · rw [interrupted, untouched.collector]

theorem goesOn_report (w : World τ) (stop : Bool) (raises : stop = true → w.ending)
    (ending : Ending τ) (other : ∀ result, ending ≠ .result result) :
    GoesOn plan w d (d.report g w stop ending : Director.RunCommand τ β) :=
  ⟨.refl w, rfl, rfl, nofun, .inr ⟨_, rfl, fun result same => absurd same (other result)⟩, raises,
    nofun⟩

theorem report_complete (w : World τ) (start : τ) :
    ∃ report result,
      (d.complete plan g w start : Director.RunCommand τ β).state.reports = report :: d.reports ∧
        report.ending = .result result ∧ Completes plan w report result := by
  have cleared := untouched_removeHandlers plan w
  have vus : (min plan.options.vus plan.options.iterations : Int) =
      (min plan.options.vus plan.options.iterations : Nat) := by omega
  refine ⟨_, _, rfl, rfl, rfl, congrArg Books.claimed cleared.books, vus, rfl, ?_, ?_⟩
  · rw [← cleared.collector]
  · rw [← cleared.collector]
    rfl

theorem goesOn_complete (w : World τ) (start : τ) :
    GoesOn plan w d (d.complete plan g w start : Director.RunCommand τ β) := by
  have cleared := untouched_removeHandlers plan w
  -- Completing writes two remarks and the lifecycle, and never into the books.
  have logged := untouched_log (Director.removeHandlers plan w)
    (Director.removeHandlers plan w).collector.summaryEntry
  have completed := (logged.trans (untouched_lifecycle _ .completed)).trans (untouched_log _
    (.completed (g.now - start)
      ((Director.removeHandlers plan w).collector.summarize (g.now - start)).iterations
      ((Director.removeHandlers plan w).collector.summarize (g.now - start)).iterationErrors
      ((Director.removeHandlers plan w).collector.summarize (g.now - start)).checksPassed
      ((Director.removeHandlers plan w).collector.summarize (g.now - start)).checksFailed))
  obtain ⟨report, result, made, ending, completes⟩ :=
    report_complete (β := β) plan d g w start
  refine ⟨cleared.trans completed, rfl, rfl, nofun, .inr ⟨report, made, ?_⟩,
    nofun, nofun⟩
  -- The result of the report is the one it was made with.
  intro other same
  obtain rfl := Ending.result.inj (ending.symm.trans same)
  exact completes

theorem goesOn_shutDown (w : World τ) (stop : Bool) (raises : stop = true → w.ending)
    (progress : Shutdown.Progress τ) (phase : Shutdown.Stage → Phase τ)
    (apart : ∀ stage start, phase stage ≠ .watching start)
    (begun : stop = true ∨ d.phase.shutsDown = true)
    (afterwards : World τ → Director.RunCommand τ β) (after : ∀ w, GoesOn plan w d (afterwards w))
    (ends : ∀ dismissed, progress = .ended dismissed → stop = true →
      (afterwards (w.log (.usersShutDown dismissed))).world.ending) :
    GoesOn plan w d (d.shutDown g w stop progress phase afterwards) := by
  unfold Director.shutDown
  split
  next dismiss crew limit stage =>
    have recorded : Untouched w
        (dismiss.foldl (fun w worker => w.record (.dismissed worker g.now)) w) :=
      untouched_foldl _ (fun w _ => untouched_record w _ rfl) _ w
    refine ⟨recorded, rfl, rfl, apart _, .inl rfl, ?_, fun _ => begun⟩
    intro stopping
    have same : (dismiss.foldl (fun w worker => w.record (.dismissed worker g.now)) w).lifecycle =
        w.lifecycle := by
      apply foldl_kept World.lifecycle
      intro w worker
      rfl
    simpa [World.ending, same] using raises stopping
  next dismissed =>
    have goes := (after (w.log (.usersShutDown dismissed))).of_untouched plan d (untouched_log w _)
    refine ⟨goes.untouched, goes.hire, goes.tasks, goes.phase, goes.reports, ?_, ?_⟩
    · intro stopping
      -- The flag comes from what follows the shutdown, or from where it began.
      rcases Bool.or_eq_true_iff.mp stopping with before | now
      · exact goes.stop before
      · exact ends dismissed rfl now
    · intro shuts
      rcases goes.shuts shuts with raised | shutting
      · exact .inl (Bool.or_eq_true_iff.mpr (.inl raised))
      · exact .inr shutting

theorem goesOn_failWith (w : World τ) (stop : Bool) (raises : stop = true → w.ending)
    (begun : stop = true ∨ d.phase.shutsDown = true) (cause : Fault)
    (progress : Shutdown.Progress τ) :
    GoesOn plan w d (d.failWith plan g w stop cause progress : Director.RunCommand τ β) := by
  apply goesOn_shutDown plan d g w stop raises progress _ _ begun
  · -- Once all have ended, the run fails with a report.
    intro w'
    exact (goesOn_report plan d g _ false nofun _ (by simp)).of_untouched plan d
      (untouched_removeHandlers plan w')
  · -- Handlers are removed first, which leaves the lifecycle failed.
    intro dismissed _ stopping
    have same : (Director.removeHandlers plan (w.log (.usersShutDown dismissed))).lifecycle =
        w.lifecycle := lifecycle_removeHandlers plan _
    simpa only [World.ending, Director.report, same] using raises stopping
  · simp

theorem goesOn_conclude (w : World τ) (start : τ) (failure : Option Fault) :
    GoesOn plan w d (d.conclude plan g w start failure : Director.RunCommand τ β) := by
  unfold Director.conclude
  split
  · exact goesOn_complete plan d g w start
  · split
    · -- A failure raises the flag as the lifecycle becomes failed.
      exact (goesOn_failWith plan d g _ true (fun _ => .inr rfl) (.inl rfl) _ _).of_untouched plan d
        ((untouched_lifecycle w .failed).trans (untouched_log _ _))
    · exact (goesOn_report plan d g _ false nofun _ (by simp)).of_untouched plan d
        (untouched_removeHandlers plan w)

theorem goesOn_drain (w : World τ) (stop : Bool) (raises : stop = true → w.ending)
    (begun : stop = true ∨ d.phase.shutsDown = true) (start : τ) (failure : Option Fault)
    (progress : Shutdown.Progress τ)
    (begins : stop = true → ∀ dismissed, progress ≠ .ended dismissed) :
    GoesOn plan w d
      (d.drain plan g w stop start failure progress : Director.RunCommand τ β) := by
  apply goesOn_shutDown plan d g w stop raises progress _ _ begun
  · intro w'
    exact goesOn_conclude plan d g w' start failure
  · intro dismissed ended stopping
    exact absurd ended (begins stopping dismissed)
  · simp

theorem goesOn_waited (w : World τ) (start : τ) :
    GoesOn plan w d (d.waited plan g w start : Director.RunCommand τ β) := by
  unfold Director.waited
  dsimp only
  split
  · exact goesOn_conclude plan d g w start _
  next some_ =>
    -- Somebody is still at work, so the shutdown does not end where it begins.
    have begins (dismissed : Nat) :
        Shutdown.begin (g.pending w.crew) Shutdown.grace ≠
          (.ended dismissed : Shutdown.Progress τ) := by
      simp [Shutdown.begin, some_]
    exact (goesOn_drain plan d g _ true (fun _ => .inl rfl) (.inl rfl) start _ _
      fun _ => begins).of_untouched plan d
        ((untouched_log w _).trans (untouched_lifecycle _ .stopping))

/-- A turn of the director begins a run, or goes on with what was begun before, with a task less
perhaps. -/
theorem supervise_cases (w : World τ) :
    (∃ rest, d.phase = .idle ∧ d.tasks = .run :: rest ∧
      (Director.supervise plan g w d : Director.RunCommand τ β) =
        { d with tasks := rest }.begin plan g w) ∨
    ∃ d' : Director τ, d'.reports = d.reports ∧ d'.phase = d.phase ∧
      (d'.tasks = d.tasks ∨ ∃ task, task ≠ .run ∧ d.tasks = task :: d'.tasks) ∧
      GoesOn plan w d' (Director.supervise plan g w d : Director.RunCommand τ β) := by
  unfold Director.supervise
  split
  · exact .inr ⟨d, rfl, rfl, .inl rfl, goesOn_waited plan d g w _⟩
  -- In a shutdown it goes on with that, and its phase tells that it had begun.
  next start failure stage phase =>
    have begun : d.phase.shutsDown = true := by rw [phase, Phase.shutsDown]
    exact .inr ⟨d, rfl, rfl, .inl rfl,
      goesOn_drain plan d g w false nofun (.inr begun) start failure _ nofun⟩
  next cause stage phase =>
    have begun : d.phase.shutsDown = true := by rw [phase, Phase.shutsDown]
    exact .inr ⟨d, rfl, rfl, .inl rfl, goesOn_failWith plan d g w false nofun (.inr begun) cause _⟩
  -- When it is idle it turns to its next task, if there is one.
  next idle =>
    split
    · -- Without a task it finishes.
      exact .inr ⟨d, rfl, rfl, .inl rfl, .refl w, rfl, rfl, by simp [idle], .inl rfl, nofun,
        .inr⟩
    next rest tasks => exact .inl ⟨rest, idle, tasks, rfl⟩
    next rest tasks =>
      -- A request to stop raises the flag only if the run was running, and it is stopping then.
      refine .inr ⟨{ d with tasks := rest }, rfl, rfl, .inr ⟨.stop, by simp, tasks⟩, ?_⟩
      have stopping (raised : w.requestStop.1 = true) : w.requestStop.2.ending :=
        .inl (accepted_of_requestStop raised).2
      exact (goesOn_report plan _ g _ _ stopping _ (by simp)).of_untouched plan _
        (untouched_requestStop w)
    next rest tasks =>
      exact .inr ⟨{ d with tasks := rest }, rfl, rfl, .inr ⟨.look, by simp, tasks⟩,
        goesOn_report plan _ g w false nofun _ (by simp)⟩

omit [Scalar τ] in
theorem untouched_begin (w : World τ) :
    Untouched w (d.begin plan g w : Director.RunCommand τ β).world := by
  unfold Director.begin
  dsimp only
  -- It warns if there are fewer numbers than users.
  have warned : Untouched w
      (if min plan.options.vus plan.options.iterations < plan.options.vus then
        w.log (.fewerUsers plan.options.vus plan.options.iterations
          (min plan.options.vus plan.options.iterations))
      else w) := by
    split
    · exact untouched_log w _
    · exact .refl w
  have running := warned.trans ((untouched_lifecycle _ .running).trans (untouched_log _
    (.starting plan.scenario (min plan.options.vus plan.options.iterations : Nat)
      plan.options.iterations plan.options.maxDuration)))
  split
  · exact running.trans (Untouched.trans (untouched_changeHandlers _ true) ⟨rfl, rfl, rfl⟩)
  · exact running.trans ⟨rfl, rfl, rfl⟩

end Run

end Volley
