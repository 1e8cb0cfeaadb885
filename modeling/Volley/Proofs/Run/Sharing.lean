import Mathlib.Algebra.Order.Ring.Rat
import Volley.Proofs.Run.Accounts
import Volley.Proofs.Run.Steady
import Volley.Proofs.Scenario.Script

/-!
# Sharing the iterations

Users share the iterations of a run. If what a body records and how it ends depend on the iteration
number only, and nothing disturbs the run, then it does not show how many users there were and how
their turns fell: the run counts what the iterations record one after another. When all users have
ended they owe nothing, and all numbers are claimed and settled.

## Main definitions

- `Run.Fulfils`: a report gives a complete result with the totals of the sequence.
- `Run.Sharing`: what is asked of a run.

## Main results

- `completes_of_finished`: under every schedule the director reports the totals of the sequence.
- `perform_of_finished`: so does the session that is carried out.
- `sharing_equals_sequence`: all this together, and the totals of two such runs.
-/

namespace Volley

namespace Run

open Http Pool

variable {τ β : Type}

/-! ### The end of an undisturbed run -/

/-- A report tells of a complete run with the totals of the sequence. -/
structure Fulfils [Scalar τ] (plan : Plan τ) (yield : Nat → Yield) (report : Report τ) : Prop where
  lifecycle : report.lifecycle = .completed
  claimed : report.claimed = plan.options.iterations
  result : ∃ result summary, report.ending = .result result ∧ result.interrupted = false ∧
    result.summary = some summary ∧
    summary.totals = ((inSequence yield plan.options.iterations : Collector τ).summarize 0).totals

section Ends

variable {plan : Plan τ} {body : Body τ β} {yield : Nat → Yield}

/-- If every number was claimed and no user left one over, all are settled as they are known to. -/
theorem settled_perm {laps : List Lap} {users n : Nat} (orderly : Lap.Orderly users laps)
    (claimed : (Lap.begun laps).length = n) (nothing : Lap.leftOver users laps = [])
    (settled : ∀ entry ∈ Lap.settled laps, ∃ n : Nat, entry = ((n : Int), (yield n).fault)) :
    (Lap.settled laps).Perm ((List.range n).map fun k : Nat => ((k : Int), (yield k).fault)) := by
  -- The numbers that were begun are the first ones, and with nothing left over each is settled.
  have numbers : ((List.range n).map (Nat.cast : Nat → Int)).Perm
      ((Lap.settled laps).map Prod.fst) := by
    have balance := orderly.balance
    rwa [nothing, List.append_nil, orderly.numbers, claimed] at balance
  -- An entry is determined by its number, so the numbers decide.
  have known : Lap.settled laps = ((Lap.settled laps).map Prod.fst).map
      fun number : Int => (number, (yield number.toNat).fault) := by
    rw [List.map_map]
    refine (List.map_id _).symm.trans (List.map_congr_left ?_)
    intro entry member
    obtain ⟨k, rfl⟩ := settled entry member
    rfl
  rw [known]
  refine (numbers.symm.map _).trans (.of_eq ?_)
  rw [List.map_map]
  exact List.map_congr_left fun k _ => rfl

variable [Scalar τ]

/-- What holds of a steady run when all its users have ended: all numbers are settled, and all
checks made. -/
structure Complete (plan : Plan τ) (yield : Nat → Yield) (w : World τ) : Prop where
  claimed : w.claimed = plan.options.iterations
  settled : (Lap.settled w.laps).Perm
    ((List.range plan.options.iterations).map fun k : Nat => ((k : Int), (yield k).fault))
  seen : w.seen.Perm (due yield plan.options.iterations)

omit [Scalar τ] in
theorem complete_of_exhausted {v : RunView τ β} (steady : Steady plan body yield v)
    (sound : RunView.Sound plan v) (exhausted : Exhausted plan v) :
    Complete plan yield v.world := by
  obtain ⟨claimed, gone, nothing⟩ := exhausted
  refine ⟨claimed, settled_perm sound.orderly (sound.claimed.symm.trans claimed) nothing
    steady.settled, ?_⟩
  obtain ⟨owed, balanced⟩ := steady.balanced
  -- Who has left owes nothing.
  have nothing : owed.flatten = [] := by
    apply List.flatten_eq_nil_iff.mpr
    intro rest member
    obtain ⟨i, inside, rfl⟩ := List.mem_iff_getElem.mp member
    have placed : i < v.crew.length := balanced.length ▸ inside
    obtain ⟨rest, found, owes⟩ := balanced.owes i _ (List.getElem?_eq_getElem placed)
    rw [gone _ (List.getElem_mem placed)] at owes
    rw [List.getElem?_eq_getElem inside, Option.some.injEq] at found
    rw [found]
    cases owes
    rfl
  have due_ := balanced.due
  rwa [nothing, List.append_nil, claimed] at due_

/-- A summary of a complete run has the totals of the sequence. -/
theorem totals_of_complete {w : World τ} {crew : List (VirtualUser τ β × Option Outcome)}
    {tasks : List Task} (complete : Complete plan yield w) (sound : Sound plan w.books crew tasks)
    (elapsed : τ) :
    (w.collector.summarize elapsed).totals =
      ((inSequence yield plan.options.iterations : Collector τ).summarize 0).totals := by
  have counted : w.collector.iterations = (Lap.settled w.laps).countP (·.2.isNone) := sound.counted
  have blamed : w.collector.iterationErrors = Collector.blame (Lap.faults w.laps) := sound.blamed
  refine Collector.totals_of_perm _ _ ?_ blamed (inSequence_errors yield _) ?_ ?_
  · rw [counted, complete.settled.countP_eq, inSequence_iterations, List.countP_map]
    rfl
  · refine (complete.settled.filterMap _).trans (.of_eq ?_)
    rw [List.filterMap_map]
    rfl
  · rw [inSequence_checks]
    exact complete.seen

/-- A run whose users share what the numbers yield: its bodies are known, its transport has no
faults, and it has users and iterations. -/
structure Sharing (plan : Plan τ) (body : Body τ β) (yield : Nat → Yield)
    (transport : Http.Transport τ) : Prop where
  known : Known plan body yield
  faultless : Faultless transport
  users : 0 < plan.options.vus
  iterations : 0 < plan.options.iterations

variable {transport : Http.Transport τ}

omit [Scalar τ] in
theorem Sharing.users_iterations (sharing : Sharing plan body yield transport) :
    0 < min plan.options.vus plan.options.iterations :=
  Nat.lt_min.mpr ⟨sharing.users, sharing.iterations⟩

/-- What the director reports of a finished run has the totals of the sequence. -/
theorem Sharing.fulfils (sharing : Sharing plan body yield transport) (now : τ) {s : RunState τ β}
    (moves : Relation.ReflTransGen (Moves (system plan body)) (initial [.run] transport now) s)
    (finished : Finished s) {start : τ} (completing : Completing plan body s start) :
    ∃ report, (s.supervisor.complete plan s.glance s.world start :
      Director.RunCommand τ β).state.reports = [report] ∧ Fulfils plan yield report := by
  obtain ⟨steady, -⟩ := (guards_steady sharing.known).completes
    (steady_initial transport sharing.faultless now) moves finished
  have reaches := reaches_of_moves plan body moves
  have sound := sound_reaches plan body [.run] (by decide) transport now s reaches
  have complete := complete_of_exhausted steady sound
    (exhausted_of_finished sharing.users_iterations moves steady.calm finished completing.hired)
  -- The summary of the report is that of a complete run.
  obtain ⟨report, result, made, ending, completes⟩ :=
    report_complete (β := β) plan s.supervisor s.glance s.world start
  have accounts := accounts_of_sound plan sound completes
  refine ⟨report, made.trans ?_, completes.lifecycle, completes.claimed.trans complete.claimed,
    result, _, ending, ?_, completes.summary, totals_of_complete complete sound _⟩
  · rw [completing.reports]
  · -- The run is not interrupted, as every number is among those that were settled.
    apply accounts.interrupted.mpr
    intro number below
    have member : ((number : Int), (yield number).fault) ∈ Lap.settled s.world.laps :=
      complete.settled.mem_iff.mpr (List.mem_map.mpr ⟨number, List.mem_range.mpr below, rfl⟩)
    obtain ⟨settles, vu, ended⟩ := Lap.mem_settled.mp member
    exact ⟨vu, _, ended, settles⟩

/-- Under every schedule a finished run is completed by its director, with the totals of the
sequence. -/
theorem completes_of_finished (sharing : Sharing plan body yield transport) (now : τ)
    {s : RunState τ β}
    (moves : Relation.ReflTransGen (Moves (system plan body)) (initial [.run] transport now) s)
    (finished : Finished s) :
    Steady plan body yield s.view ∧ ∃ start report,
      (system plan body).supervise s.glance s.world s.supervisor =
          s.supervisor.complete plan s.glance s.world start ∧
        (s.supervisor.complete plan s.glance s.world start :
          Director.RunCommand τ β).state.reports = [report] ∧ Fulfils plan yield report := by
  obtain ⟨steady, start, completing⟩ := (guards_steady sharing.known).completes
    (steady_initial transport sharing.faultless now) moves finished
  obtain ⟨report, made, fulfils⟩ := sharing.fulfils now moves finished completing
  exact ⟨steady, start, report, completing.supervise, made, fulfils⟩

/-- A session with one run whose users all end while the director waits gives one report, with the
totals of the sequence. -/
theorem perform_of_finished (sharing : Sharing plan body yield transport) (now : τ) (k : Nat)
    (finished : Finished (conduct (system plan body) k (initial [.run] transport now))) :
    ∃ enough report, Fulfils plan yield report ∧ ∀ budget, enough ≤ budget →
      (perform plan body [.run] transport now budget).reports = [report] := by
  obtain ⟨enough, t, start, moves, finished', completing, ends⟩ :=
    perform_of_guards (guards_steady sharing.known) sharing.users_iterations
      (steady_initial transport sharing.faultless now) finished
  obtain ⟨report, made, fulfils⟩ := sharing.fulfils now moves finished' completing
  refine ⟨enough, report, fulfils, ?_⟩
  intro budget more
  rw [(ends budget more).1, made]
  rfl

/-- The totals of a report, if it gives a result with a summary. -/
def Report.totals? (report : Report τ) : Option Totals :=
  match report.ending with
  | .result result => result.summary.map Summary.totals
  | _ => none

/-- A report of a complete run has the totals of the sequence. -/
theorem Fulfils.totals {report : Report τ} (fulfils : Fulfils plan yield report) :
    Report.totals? report =
      some ((inSequence yield plan.options.iterations : Collector τ).summarize 0).totals := by
  obtain ⟨-, -, result, summary, ending, -, taken, totals⟩ := fulfils
  rw [Report.totals?, ending]
  dsimp only
  rw [taken, Option.map_some, totals]

/-- If all users end before the time is over, a run gives a complete result with the totals of the
sequence, under every schedule, and so does the session that is carried out; so the totals of two
such runs with as many iterations are the same. -/
theorem sharing_equals_sequence (sharing : Sharing plan body yield transport) (now : τ) :
    (∀ s, Relation.ReflTransGen (Moves (system plan body)) (initial [.run] transport now) s →
      Finished s → ∃ report,
        (runSupervisor (system plan body) s).supervisor.reports = [report] ∧
          Fulfils plan yield report) ∧
    (∀ k, Finished (conduct (system plan body) k (initial [.run] transport now)) →
      ∃ enough report, Fulfils plan yield report ∧ ∀ budget, enough ≤ budget →
        (perform plan body [.run] transport now budget).reports = [report]) ∧
    ∀ (γ : Type) (plan' : Plan τ) (body' : Body τ γ) (transport' : Http.Transport τ) (now' : τ)
      (k k' : Nat), Sharing plan' body' yield transport' →
      plan'.options.iterations = plan.options.iterations →
      Finished (conduct (system plan body) k (initial [.run] transport now)) →
      Finished (conduct (system plan' body') k' (initial [.run] transport' now')) →
      ∃ enough, ∀ budget budget', enough ≤ budget → enough ≤ budget' →
        (perform plan body [.run] transport now budget).reports.map Report.totals? =
          (perform plan' body' [.run] transport' now' budget').reports.map Report.totals? := by
  refine ⟨?_, fun k finished => perform_of_finished sharing now k finished,
    ?_⟩
  · intro s moves finished
    obtain ⟨steady, start, report, completes, made, fulfils⟩ :=
      completes_of_finished sharing now moves finished
    have view := view_runSupervisor (system plan body) s steady.kept steady.working
    rw [completes] at view
    exact ⟨report, (congrArg (fun v => v.supervisor.reports) view).trans made, fulfils⟩
  · intro γ plan' body' transport' now' k k' sharing' same finished finished'
    obtain ⟨enough, report, fulfils, performs⟩ := perform_of_finished sharing now k finished
    obtain ⟨enough', report', fulfils', performs'⟩ := perform_of_finished sharing' now' k' finished'
    refine ⟨max enough enough', ?_⟩
    intro budget budget' more more'
    -- With as many iterations both have the totals of the same sequence.
    rw [performs budget (by omega), performs' budget' (by omega), List.map_singleton,
      List.map_singleton, fulfils.totals, fulfils'.totals, same]

end Ends

/-! ### A small session -/

namespace Sample

def yield (iteration : Nat) : Yield :=
  Script.yieldOf (script.steps 0 iteration)

theorem sharing : Sharing plan body yield {} := by
  refine ⟨?_, ⟨fun _ => rfl, fun _ => rfl⟩, by decide, by decide⟩
  intro vu iteration below
  have few : iteration = 0 ∨ iteration = 1 ∨ iteration = 2 := by
    have bound : iteration < 3 := below
    omega
  -- All users of the small session run the same steps.
  have plain : ∀ step ∈ script.steps 0 iteration, step.isPlain = true := by
    rcases few with rfl | rfl | rfl <;> decide
  exact Script.yields_script script vu iteration plain

theorem finished : Finished (after 27) := by decide +kernel

end Sample

/-- The small session is carried out with the totals of its three iterations in sequence. -/
theorem sharing_sample : ∃ enough report, Fulfils Sample.plan Sample.yield report ∧
    ∀ budget, enough ≤ budget →
      (perform Sample.plan Sample.body [.run] {} 0 budget).reports = [report] :=
  (sharing_equals_sequence Sample.sharing 0).2.1 27 Sample.finished

end Run

end Volley
