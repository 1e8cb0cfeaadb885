import Mathlib.Algebra.Order.Ring.Rat
import Volley.Proofs.Run.Accounts
import Volley.Proofs.Scenario.Products
import Volley.Scalar.Rational

/-!
# Runs of the products scenario

However many users share the iterations of the products scenario, and however their turns fall, a
run that nothing disturbs records what the fates of its requests leave: as many requests are served
as there are iterations, and what the summary counts can be read off the replies.

## Main definitions

- `Products.Serving`: the invariant of an undisturbed run.
- `Products.Tells`: a summary tells of requests of some fates.
- `Products.Obeys`: what was carried and what is reported when a run is over.

## Main results

- `guards_serving`: a run is serving until its director stops waiting.
- `records_of_finished`: a finished run has recorded what the fates of its requests leave.
- `obeys_of_finished`: a finished run is reported so, under every schedule and when it is carried
  out.
-/

namespace Volley

namespace Products

open Http Pool Run

variable {τ : Type}

/-! ### The invariant -/

/-- What was recorded and what is outstanding is what the fates of the served requests leave. -/
structure Serving [Scalar τ] (config : RequestConfig τ) (plan : Plan τ) (replies : List (Reply τ))
    (v : RunView τ Stage) : Prop where
  calm : Undisturbed plan v
  replies : v.world.transport.replies = replies
  engaged : ∀ standing ∈ v.crew,
    Engaged plan v.world.transport.sessions.length standing.state.stage
  balance : (recorded v.world ++
    v.crew.flatMap fun standing => outstanding config standing.state.stage).Perm
      (expected config plan v.world.transport)

section Serving

variable [Scalar τ] {config : RequestConfig τ} {plan : Plan τ} {replies : List (Reply τ)}

theorem serving_initial (now : τ) : Serving config plan replies
    (initial [.run] { replies } now : RunState τ Stage).view := by
  have nobody : (initial [.run] { replies } now : RunState τ Stage).view.crew = [] := rfl
  refine ⟨undisturbed_initial _ ⟨fun _ => rfl, fun _ => rfl⟩ now, rfl, ?_, ?_⟩
  · simp [nobody]
  · rw [nobody]
    exact .refl _

/-- The turn of a user is served by `serves_work`, from the stage where it stands. -/
theorem Serving.serves (headers : plan.headers = []) (ordinary : ∀ reply ∈ replies, reply.Ordinary)
    {s : RunState τ Stage} (serving : Serving config plan replies s.view) {i : Nat}
    {w : Worker (VirtualUser τ Stage)} (found : s.workers[i]? = some w) :
    Serves config plan s.world (outstanding config w.state.stage)
      (VirtualUser.work plan (body config) s.glance s.world w.state .elapsed) := by
  have placed : s.view.crew[i]? = some w.standing := by simp [State.view, found]
  have engaged := serving.engaged _ (List.mem_of_getElem? placed)
  have same : s.world.transport.replies = replies := serving.replies
  exact serves_work headers serving.calm.lowered serving.calm.faultless (same ▸ ordinary) w.state
    engaged

theorem serving_work (headers : plan.headers = []) (ordinary : ∀ reply ∈ replies, reply.Ordinary)
    {s : RunState τ Stage} (serving : Serving config plan replies s.view) {i : Nat}
    {w : Worker (VirtualUser τ Stage)} (found : s.workers[i]? = some w)
    (active : w.outcome? = none) :
    Serving config plan replies (runWorker (system plan (body config)) s i).view := by
  have serves := serving.serves headers ordinary found
  have calm := serving.calm.work found active serves.gentle
  have placed : s.view.crew[i]? = some w.standing := by simp [State.view, found]
  -- What the others owe stays as it is.
  obtain ⟨others, before, after⟩ := flatMap_set_perm placed
    fun standing => outstanding config standing.state.stage
  have balance := serves.leaves.balance others
    ((before.append_left _).symm.trans serving.balance)
  refine ⟨calm, ?_, ?_, ?_⟩
  · rw [serving.calm.view_work found active]
    exact serves.leaves.replies.trans serving.replies
  · rw [serving.calm.view_work found active]
    intro standing member
    -- Sessions are only added, so whoever has one keeps it.
    rcases List.mem_or_eq_of_mem_set member with there | rfl
    · exact (serving.engaged standing there).more serves.leaves.sessions
    · exact serves.engaged
  · rw [serving.calm.view_work found active]
    exact ((after _).append_left _).trans balance

omit [Scalar τ] in
theorem recorded_of_untouched {w w' : World τ} (untouched : Untouched w w') :
    recorded w' = recorded w := by
  have laps : w'.laps = w.laps := congrArg Books.laps untouched.books
  simp only [recorded, untouched.transport, untouched.collector, laps]

/-- Newcomers owe nothing. -/
theorem serving_begin {s : RunState τ Stage} (serving : Serving config plan replies s.view)
    (nobody : s.view.crew = []) (reports : s.view.supervisor.reports = []) :
    Serving config plan replies (s.view.afterCommand
      ({ s.view.supervisor with tasks := [] }.begin plan s.glance s.view.world)) := by
  have calm := serving.calm.begin s.glance nobody (outcomes_of_nobody nobody) reports
  have untouched : Untouched s.view.world (s.view.afterCommand
      ({ s.view.supervisor with tasks := [] }.begin plan s.glance s.view.world)).world :=
    untouched_begin (β := Stage) plan { s.view.supervisor with tasks := [] } s.glance s.view.world
  have newcomers (standing : Standing (VirtualUser τ Stage)) (member : standing ∈
      (s.view.afterCommand ({ s.view.supervisor with tasks := [] }.begin plan s.glance
        s.view.world)).crew) : standing.state.stage = .outside := by
    obtain ⟨vu, rfl⟩ := newcomer_of_mem nobody member
    rfl
  -- Only these facts are needed of what the director has begun.
  generalize s.view.afterCommand
    ({ s.view.supervisor with tasks := [] }.begin plan s.glance s.view.world) = v at *
  have nothing : v.crew.flatMap (fun standing => outstanding config standing.state.stage) = [] := by
    rw [List.flatMap_eq_nil_iff]
    intro standing member
    rw [newcomers standing member]
    rfl
  refine ⟨calm, ?_, ?_, ?_⟩
  · rw [untouched.transport]
    exact serving.replies
  · intro standing member
    rw [newcomers standing member]
    exact .outside
  · have balance := serving.balance
    rw [nobody] at balance
    rw [nothing, recorded_of_untouched untouched, untouched.transport]
    exact balance

/-- An undisturbed run is serving until its director stops waiting. -/
theorem guards_serving (headers : plan.headers = [])
    (ordinary : ∀ reply ∈ replies, reply.Ordinary) :
    Guards plan (body config) (Serving config plan replies) := by
  refine .of_steps (fun _ serving => serving.calm) ?_ ?_ ?_
  · intro s serving i w found
    exact (serving.serves headers ordinary found).gentle
  · intro s serving i w found active
    exact serving_work headers ordinary serving found active
  · intro s serving nobody reports
    exact serving_begin serving nobody reports

end Serving

/-! ### What was recorded -/

section Recorded

def Trace.request? : Trace → Option Request
  | .sent request => some request
  | _ => none

def Trace.metric? : Trace → Option (String × Bool)
  | .measured name failed => some (name, failed)
  | _ => none

def Trace.check? : Trace → Option (String × Bool)
  | .checked label passed => some (label, passed)
  | _ => none

def Trace.end? : Trace → Option Bool
  | .settled fine => some fine
  | _ => none

variable (config : RequestConfig τ)

/-- The check that is made of a response, if there is one. -/
def check? : Fate → Option (String × Bool)
  | .read status => some (statusCheck, config.accepted.contains status)
  | _ => none

/-- What was recorded in a world is what these fates leave, kind by kind. -/
structure Records (fates : List Fate) (w : World τ) : Prop where
  requests : w.transport.sessions.flatMap Http.Session.requests =
    List.replicate fates.length (wanted config)
  metrics : (w.collector.requests.map fun m => (m.name, Collector.isRequestError m)).Perm
    (fates.map fun fate => (metricName, fate == .failed))
  checks : (w.collector.checks.map CheckResult.seen).Perm (fates.filterMap (check? config))
  ends : ((Lap.settled w.laps).map (·.2.isNone)).Perm (fates.map Fate.isRead)

variable {config}

/-- What is picked from the traces of fates is what is picked from each of them. -/
theorem picked_of_recorded {α : Type} {w : World τ} {fates : List Fate}
    (balance : (recorded w).Perm (fates.flatMap (traces config))) (pick : Trace → Option α) :
    ((recorded w).filterMap pick).Perm
      (fates.flatMap fun fate => (traces config fate).filterMap pick) := by
  rw [← List.filterMap_flatMap]
  exact balance.filterMap pick

theorem records_of_recorded {w : World τ} {fates : List Fate}
    (balance : (recorded w).Perm (fates.flatMap (traces config))) : Records config fates w := by
  constructor
  · -- Every fate leaves one request, one metric and one end, and at most one check.
    have picked := picked_of_recorded balance Trace.request?
    have each (fate : Fate) : (traces config fate).filterMap Trace.request? = [wanted config] := by
      cases fate <;> rfl
    have all : (recorded w).filterMap Trace.request? =
        w.transport.sessions.flatMap Http.Session.requests := by
      simp [recorded, List.filterMap_map, Function.comp_def, Trace.request?]
    simp only [each, all, ← List.map_eq_flatMap, List.map_const'] at picked
    exact List.perm_replicate.mp picked
  · have picked := picked_of_recorded balance Trace.metric?
    have each (fate : Fate) :
        (traces config fate).filterMap Trace.metric? = [(metricName, fate == .failed)] := by
      cases fate <;> rfl
    have all : (recorded w).filterMap Trace.metric? =
        w.collector.requests.map fun m => (m.name, Collector.isRequestError m) := by
      simp [recorded, List.filterMap_map, Function.comp_def, Trace.metric?]
    simp only [each, all, ← List.map_eq_flatMap] at picked
    exact picked
  · have picked := picked_of_recorded balance Trace.check?
    have each (fate : Fate) :
        (traces config fate).filterMap Trace.check? = (check? config fate).toList := by
      cases fate <;> rfl
    have all : (recorded w).filterMap Trace.check? = w.collector.checks.map CheckResult.seen := by
      simp [recorded, List.filterMap_map, Function.comp_def, Trace.check?, CheckResult.seen]
    simp only [each, all, ← List.filterMap_eq_flatMap_toList] at picked
    exact picked
  · have picked := picked_of_recorded balance Trace.end?
    have each (fate : Fate) : (traces config fate).filterMap Trace.end? = [fate.isRead] := by
      cases fate <;> rfl
    have all : (recorded w).filterMap Trace.end? = (Lap.settled w.laps).map (·.2.isNone) := by
      simp [recorded, List.filterMap_map, Function.comp_def, Trace.end?]
    simp only [each, all, ← List.map_eq_flatMap] at picked
    exact picked

end Recorded

/-! ### What is reported -/

/-- Whether a response is read whose status is accepted. -/
def passes (accepted : StatusSet) : Fate → Bool
  | .read status => accepted.contains status
  | _ => false

/-- Whether a response is read whose status is not accepted. -/
def misses (accepted : StatusSet) : Fate → Bool
  | .read status => !accepted.contains status
  | _ => false

/-- A summary tells of as many requests as there are fates. -/
structure Tells (config : RequestConfig τ) (fates : List Fate) (summary : Summary τ) : Prop where
  totalRequests : summary.totalRequests = fates.length
  /-- Requests that failed before there was a response. -/
  requestErrors : summary.requestErrors = fates.count .failed
  /-- Requests whose response was read to its end, and the others. -/
  iterations : summary.iterations = fates.countP Fate.isRead
  iterationErrors : summary.iterationErrors = fates.countP fun fate => !fate.isRead
  /-- There is one check, if any response was read. -/
  checks : summary.checks = if fates.countP Fate.isRead = 0 then []
    else [(statusCheck, { name := statusCheck
                          passes := fates.countP (passes config.accepted)
                          fails := fates.countP (misses config.accepted) })]
  conserved : summary.checksPassed + summary.checksFailed + summary.iterationErrors = fates.length
  bounded : summary.requestErrors ≤ summary.iterationErrors

section Tells

variable {config : RequestConfig τ} {plan : Plan τ} {w : World τ} {fates : List Fate}

/-- A response that is read has a status that is accepted or is not. -/
theorem countP_judged (accepted : StatusSet) (fates : List Fate) :
    fates.countP (passes accepted) + fates.countP (misses accepted) = fates.countP Fate.isRead := by
  induction fates with
  | nil => rfl
  | cons fate rest ih =>
    cases fate with
    | failed => simpa [passes, misses, Fate.isRead] using ih
    | unread => simpa [passes, misses, Fate.isRead] using ih
    | read status =>
      -- A response that is read is counted on one side.
      cases said : accepted.contains status with
      | true =>
        simp only [List.countP_cons, passes, misses, Fate.isRead, said, Bool.not_true,
          Bool.false_eq_true, if_true, if_false]
        omega
      | false =>
        simp only [List.countP_cons, passes, misses, Fate.isRead, said, Bool.not_false,
          Bool.false_eq_true, if_true, if_false]
        omega

/-- The collector tallies the checks of the responses that were read. -/
theorem Records.tally (records : Records config fates w) :
    Collector.tally w.collector.checks = if fates.countP Fate.isRead = 0 then []
      else [(statusCheck, { name := statusCheck
                            passes := fates.countP (passes config.accepted)
                            fails := fates.countP (misses config.accepted) })] := by
  -- What is counted among the checks is counted among the fates that were checked.
  have counted (p : String × Bool → Bool) : w.collector.checks.countP (fun r => p r.seen) =
      fates.countP fun fate => ((check? config fate).map p).getD false := by
    have same := records.checks.countP_eq p
    rw [List.countP_map, List.countP_filterMap] at same
    exact same
  -- All of them have the same label, so the tally has one entry.
  have labelled : ∀ r ∈ w.collector.checks, r.name = statusCheck := by
    intro r member
    have listed := records.checks.mem_iff.mp (List.mem_map_of_mem member)
    obtain ⟨fate, -, checked⟩ := List.mem_filterMap.mp listed
    cases fate with
    | failed => cases checked
    | unread => cases checked
    | read status => exact (congrArg Prod.fst (Option.some.inj checked)).symm
  have read : fates.countP Fate.isRead = 0 ↔ w.collector.checks = [] := by
    have all := counted fun _ => true
    have each : (fun fate => ((check? config fate).map fun _ => true).getD false) =
        Fate.isRead := by
      funext fate
      cases fate <;> rfl
    rw [each, List.countP_true] at all
    rw [← all, List.length_eq_zero_iff]
  have passed : (fun fate => ((check? config fate).map fun o => o.2).getD false) =
      passes config.accepted := by
    funext fate
    cases fate <;> rfl
  have missed : (fun fate => ((check? config fate).map fun o => !o.2).getD false) =
      misses config.accepted := by
    funext fate
    cases fate <;> rfl
  rw [Collector.tally_of_label labelled, ← passed, ← missed, ← counted, ← counted]
  simp only [read]
  rfl

/-- A summary of a world with the records of some fates tells of them. -/
theorem Records.tells [Scalar τ] (records : Records config fates w) {result : RunResult τ}
    (accounts : Accounts plan w result (w.collector.summarize result.duration)) :
    Tells config fates (w.collector.summarize result.duration) := by
  have metrics : w.collector.requests.length = fates.length := by
    simpa using records.metrics.length_eq
  have failed : w.collector.requests.countP Collector.isRequestError = fates.count .failed := by
    have same := records.metrics.countP_eq Prod.snd
    rw [List.countP_map, List.countP_map] at same
    exact same
  have ends : (Lap.settled w.laps).length = fates.length := by
    simpa using records.ends.length_eq
  have read : (Lap.settled w.laps).countP (·.2.isNone) = fates.countP Fate.isRead := by
    have same := records.ends.countP_eq id
    rw [List.countP_map, List.countP_map] at same
    exact same
  -- What is settled returned or failed, and so it is with the fates.
  have split := Lap.length_settled w.laps
  have others := List.length_eq_countP_add_countP Fate.isRead (l := fates)
  have unread : (Lap.faults w.laps).length = fates.countP fun fate => !fate.isRead := by
    have same : (fates.countP fun fate => !fate.isRead) =
        fates.countP fun fate => decide (¬ fate.isRead = true) := by simp
    rw [same]
    omega
  have checks := records.tally
  have judged := countP_judged config.accepted fates
  have errors : (w.collector.summarize result.duration).iterationErrors =
      fates.countP fun fate => !fate.isRead := accounts.failed.trans (congrArg _ unread)
  refine ⟨congrArg _ metrics, congrArg _ failed, accounts.returned.trans (congrArg _ read), errors,
    checks, ?_, ?_⟩
  · -- Whoever read a response made its check, and all others are among the errors.
    have passed : (w.collector.summarize result.duration).checksPassed +
        (w.collector.summarize result.duration).checksFailed = fates.countP Fate.isRead := by
      simp only [Summary.checksPassed, Summary.checksFailed, Collector.summarize, checks]
      split
      next unread =>
        rw [unread]
        rfl
      next =>
        simp only [Assoc.values, List.map_cons, List.map_nil, Summary.total, List.foldr_cons,
          List.foldr_nil]
        omega
    rw [passed, errors, unread.symm]
    omega
  · rw [errors]
    -- A request without a response does not return.
    have fewer : fates.countP (· == .failed) ≤ fates.countP fun fate => !fate.isRead := by
      apply List.countP_mono_left
      intro fate _ failed
      rw [eq_of_beq failed]
      rfl
    have counted : (w.collector.summarize result.duration).requestErrors = fates.count .failed :=
      congrArg _ failed
    rw [counted]
    exact Int.ofNat_le.mpr fewer

end Tells

/-! ### The law of a run -/

/-- What a run carried and what it reports, when it is over. -/
structure Obeys [Scalar τ] (config : RequestConfig τ) (plan : Plan τ) (replies : List (Reply τ))
    (w : World τ) (report : Report τ) : Prop where
  /-- The sessions carried one request for each iteration, always the same. -/
  requests : w.transport.sessions.flatMap Http.Session.requests =
    List.replicate plan.options.iterations (wanted config)
  named : ∀ metric ∈ w.collector.requests, metric.name = metricName
  lifecycle : report.lifecycle = .completed
  result : ∃ result summary, report.ending = .result result ∧ result.summary = some summary ∧
    Tells config (fates plan replies plan.options.iterations) summary

section Law

variable [Scalar τ] {config : RequestConfig τ} {plan : Plan τ} {replies : List (Reply τ)}

/-- In a finished run as many requests were served as there are iterations, and their fates are on
record. -/
theorem records_of_finished (headers : plan.headers = [])
    (ordinary : ∀ reply ∈ replies, reply.Ordinary)
    (users : 0 < min plan.options.vus plan.options.iterations) {now : τ} {s : RunState τ Stage}
    (moves : Relation.ReflTransGen (Moves (system plan (body config)))
      (initial [.run] { replies } now) s) (finished : Finished s) :
    Records config (fates plan replies plan.options.iterations) s.world := by
  obtain ⟨serving, start, completing⟩ := (guards_serving headers ordinary).completes
    (serving_initial now) moves finished
  obtain ⟨claimed, gone, settled⟩ := exhausted_of_finished users moves serving.calm finished
    completing.hired
  -- Who has left owes nothing.
  have nothing : s.view.crew.flatMap
      (fun standing => outstanding config standing.state.stage) = [] := by
    rw [List.flatMap_eq_nil_iff]
    intro standing member
    rw [gone standing member]
    rfl
  have balance := serving.balance
  rw [nothing, List.append_nil, expected, serving.replies] at balance
  have records := records_of_recorded balance
  -- Every request was sent for a number, and every number was claimed and settled.
  have sound := sound_reaches plan (body config) [.run] (by decide) { replies } now s
    (reaches_of_moves plan (body config) moves)
  have begun := sound.orderly.length_begun
  have served : s.view.world.transport.served = plan.options.iterations := by
    have ends := records.ends.length_eq
    simp only [List.length_map, fates, List.length_range] at ends
    have begun' : (Lap.begun s.view.world.books.laps).length = plan.options.iterations :=
      sound.claimed.symm.trans claimed
    have settled' : Lap.leftOver (min plan.options.vus plan.options.iterations)
      s.view.world.books.laps = [] := settled
    rw [settled', begun', List.length_nil, Nat.add_zero] at begun
    exact ends.symm.trans begun.symm
  rw [served] at records
  exact records

/-- The director reports of a finished run what its requests came to. -/
theorem obeys_of_completing (headers : plan.headers = [])
    (ordinary : ∀ reply ∈ replies, reply.Ordinary)
    (users : 0 < min plan.options.vus plan.options.iterations) {now : τ} {s : RunState τ Stage}
    (moves : Relation.ReflTransGen (Moves (system plan (body config)))
      (initial [.run] { replies } now) s) (finished : Finished s) {start : τ}
    (completing : Completing plan (body config) s start) :
    ∃ report, (s.supervisor.complete plan s.glance s.world start :
        Director.RunCommand τ Stage).state.reports = [report] ∧
      ∀ w, Untouched s.world w → Obeys config plan replies w report := by
  have records := records_of_finished headers ordinary users moves finished
  have sound := sound_reaches plan (body config) [.run] (by decide) { replies } now s
    (reaches_of_moves plan (body config) moves)
  obtain ⟨report, result, made, ending, completes⟩ :=
    report_complete (β := Stage) plan s.supervisor s.glance s.world start
  refine ⟨report, by rw [made, completing.reports], ?_⟩
  intro w untouched
  refine ⟨?_, ?_, completes.lifecycle, result, _, ending, completes.summary,
    records.tells (accounts_of_sound plan sound completes)⟩
  · rw [untouched.transport, records.requests]
    simp [fates]
  · intro metric member
    rw [untouched.collector] at member
    have listed := records.metrics.mem_iff.mp (List.mem_map_of_mem member)
    obtain ⟨fate, -, same⟩ := List.mem_map.mp listed
    exact (congrArg Prod.fst same).symm

/-- If nothing disturbs a run of the products scenario and all users end before the time is over,
its sessions carry one request for each iteration, and its report tells what the replies made of
them: under every schedule, and so in the session that is carried out. -/
theorem obeys_of_finished (config : RequestConfig τ) (plan : Plan τ) (headers : plan.headers = [])
    (vus : 0 < plan.options.vus) (iterations : 0 < plan.options.iterations)
    (replies : List (Reply τ)) (ordinary : ∀ reply ∈ replies, reply.Ordinary) (now : τ) :
    (∀ s, Relation.ReflTransGen (Moves (system plan (body config)))
        (initial [.run] { replies } now) s → Finished s →
      ∃ report, (runSupervisor (system plan (body config)) s).supervisor.reports = [report] ∧
        Obeys config plan replies (runSupervisor (system plan (body config)) s).world report) ∧
    ∀ k, Finished (conduct (system plan (body config)) k (initial [.run] { replies } now)) →
      ∃ enough report, ∀ budget, enough ≤ budget →
        (perform plan (body config) [.run] { replies } now budget).reports = [report] ∧
          Obeys config plan replies
            (perform plan (body config) [.run] { replies } now budget).world report := by
  have users : 0 < min plan.options.vus plan.options.iterations := Nat.lt_min.mpr ⟨vus, iterations⟩
  have guards : Guards plan (body config) (Serving config plan replies) :=
    guards_serving headers ordinary
  constructor
  · intro s moves finished
    obtain ⟨serving, start, completing⟩ := guards.completes (serving_initial now) moves finished
    obtain ⟨report, made, obeys⟩ :=
      obeys_of_completing headers ordinary users moves finished completing
    have view := view_runSupervisor (system plan (body config)) s serving.calm.kept
      serving.calm.working
    rw [completing.supervise] at view
    refine ⟨report, (congrArg (fun v => v.supervisor.reports) view).trans made, obeys _ ?_⟩
    have world : (runSupervisor (system plan (body config)) s).world =
        (s.supervisor.complete plan s.glance s.world start :
          Director.RunCommand τ Stage).world := congrArg View.world view
    rw [world]
    exact (goesOn_complete plan s.supervisor s.glance s.world start).untouched
  · intro k finished
    obtain ⟨enough, t, start, moves, finished', completing, ends⟩ :=
      perform_of_guards guards users (serving_initial now) finished
    obtain ⟨report, made, obeys⟩ :=
      obeys_of_completing headers ordinary users moves finished' completing
    refine ⟨enough, report, ?_⟩
    intro budget more
    obtain ⟨reports, untouched⟩ := ends budget more
    refine ⟨?_, obeys _ untouched⟩
    rw [reports, made]
    rfl

end Law

/-! ### A medley of replies -/

namespace Medley

def config : RequestConfig Rat :=
  { url := "http://localhost/products", token := "secret", accepted := [200], timeout := 5 }

def plan : Plan Rat :=
  { scenario := "products", options := { vus := 2, iterations := 5, maxDuration := 60 },
    requestTimeout := 5 }

/-- Two responses, a refused request, a body that breaks off, and a response that comes too late. -/
def replies : List (Reply Rat) :=
  [{}, { status := 404, delay := some 1 },
    { fault := some (.ordinary "ConnectionError" "refused") },
    { readFault := some (.ordinary "PayloadError" "broken off"), readDelay := some 2 },
    { delay := some 100 }]

def after (steps : Nat) : RunState Rat Stage :=
  conduct (system plan (body config)) steps (initial [.run] { replies } 0)

theorem ordinary : ∀ reply ∈ replies, reply.Ordinary := by
  intro reply member
  simp only [replies, List.mem_cons, List.not_mem_nil, or_false] at member
  rcases member with rfl | rfl | rfl | rfl | rfl
  all_goals exact ⟨by decide, rfl, rfl⟩

theorem finished : Finished (after 40) := by decide +kernel

example : fates plan replies 5 = [.read 200, .read 404, .failed, .unread, .failed] := by decide

end Medley

/-- Two users carry out five requests that fare differently. -/
theorem obeys_of_finished_medley : ∃ enough report, ∀ budget, enough ≤ budget →
    (perform Medley.plan (body Medley.config) [.run] { replies := Medley.replies } 0
        budget).reports = [report] ∧
      Obeys Medley.config Medley.plan Medley.replies
        (perform Medley.plan (body Medley.config) [.run] { replies := Medley.replies } 0
          budget).world report :=
  (obeys_of_finished Medley.config Medley.plan rfl (by decide) (by decide) Medley.replies
    Medley.ordinary 0).2 40 Medley.finished

end Products

end Volley
