import Mathlib.Algebra.Order.Ring.Rat
import Volley.Proofs.Run.Accounts
import Volley.Proofs.Run.Passing

/-!
# The time limits of a run

A run that begins at some time waits for its users as long as it may take. Those that are left then
have five seconds to end by themselves; whoever has not ended by then is dismissed, and two seconds
later the run gives its result. If a user had failed, the others are shut down a second time, which
takes seven seconds more at most. None of this depends on what the users do: they may ignore that
they are dismissed, and the run ends all the same. Nor does it depend on signals and on who asks for
a stop: they make nobody be dismissed earlier.

Times are those of an exact clock, which moves only when nothing is queued.

## Main definitions

- `Run.Plan.limit`: so many seconds after the time of a run is over.
- `Run.Timed`: what the clock is at most in the phases of a run.
- `Run.OnTime`, `Run.EndsInTime`: a run under way, and its end.
- `Run.Begins`, `Run.Limits`: what holds after a run has begun.

## Main results

- `limits_of_course`: the limits hold on every course of a session.
-/

namespace Volley

namespace Run

open Http Pool
open Scalar (Exact)

variable {τ β : Type}

/-! ### What a summary counts -/

section Counting

variable [Scalar τ] {plan : Plan τ} {body : Body τ β}

/-- The books count what the laps settle at every point of a session. -/
theorem counted_of_reaches {tasks : List Task} {transport : Transport τ} {now : τ}
    {s : RunState τ β} (reaches : Reaches plan body (initial tasks transport now) s) :
    Counted s.world.books := by
  refine kept_of_reaches (motive := fun v => Counted v.world.books) plan body ?_ ?_ reaches
  · intro v v' counted changes
    cases changes with
    | strode i user found stage outcome stride stop supervisor crew =>
      exact counted_stride counted stride
    | quiet untouched stop supervisor crew =>
      rw [untouched.books]
      exact counted
    | hired tasks reports untouched stop crew phase =>
      rw [untouched.books]
      exact counted
    | directed tasks phase reports untouched stop crew shuts =>
      rw [untouched.books]
      exact counted
  · exact ⟨rfl, rfl⟩

end Counting

/-! ### Limits -/

/-- So many seconds after the time of a run is over that began at `start`. -/
def Plan.limit [Scalar τ] (plan : Plan τ) (start : τ) (seconds : Nat) : τ :=
  start + plan.options.maxDuration + Scalar.ofNat seconds

section Phases

variable [Scalar τ] (plan : Plan τ)

/-- A run in overtime: those who were left have been dismissed, and it lasts no longer than so many
seconds. -/
structure Overtime (start : τ) (last : Nat) (s : RunState τ β) : Prop where
  late : plan.limit start 5 ≤ s.now
  watched : ∃ crew limit, Watch crew limit s ∧ limit ≤ plan.limit start last

/-- What the clock is in the phases of a run with these users. -/
inductive Timed (start : τ) (users : List Nat) (s : RunState τ β) : Phase τ → Prop
  | watching (watch : Watch users (start + plan.options.maxDuration) s) :
      Timed start users s (.watching start)
  | grace (failure : Option Fault) (crew : List Nat) (watch : Watch crew (plan.limit start 5) s)
      (others : ∀ i ∈ users, i ∈ crew ∨ s.view.hasEnded i) :
      Timed start users s (.draining start failure (.grace crew))
  | settling (failure : Option Fault) (dismissed : Nat) (past : Overtime plan start 7 s) :
      Timed start users s (.draining start failure (.settling dismissed))
  | failing (cause : Fault) (crew : List Nat) (past : Overtime plan start 12 s) :
      Timed start users s (.failing cause (.grace crew))
  | failed (cause : Fault) (dismissed : Nat) (past : Overtime plan start 14 s) :
      Timed start users s (.failing cause (.settling dismissed))

/-- The run that has begun in `a` at `start` is still under way in `s`. -/
structure OnTime (start : τ) (a s : RunState τ β) : Prop where
  timed : Timed plan start a.world.crew s s.supervisor.phase
  crew : s.world.crew = a.world.crew
  reports : s.supervisor.reports = a.supervisor.reports
  dismissed : ∀ i ∈ a.world.crew, Dismissed s.view i → plan.limit start 5 ≤ s.now
  history : ∃ latest, s.world.history = latest ++ a.world.history ∧
    ∀ worker time, .dismissed worker time ∈ latest → plan.limit start 5 ≤ time

/-- The run that has begun in `a` at `start` ends in `b` with a report. -/
structure EndsInTime (start : τ) (a b : RunState τ β) (report : Report τ) : Prop where
  completes : ∀ result, report.ending = .result result → Completes plan b.world report result
  result : ∀ result, report.ending = .result result →
    result.startTime = start ∧ result.endTime ≤ plan.limit start 7
  failed : ∀ cause, report.ending = .failed cause → report.time ≤ plan.limit start 14
  users : ∀ i ∈ a.world.crew, b.view.hasEnded i ∨ plan.limit start 5 ≤ b.now

/-- The director, which was idle, turns to a run. -/
structure Begins (body : Body τ β) (s a : RunState τ β) : Prop where
  turn : ∃ rest, s.round = .turn .supervisor :: rest
  idle : s.supervisor.phase = .idle
  wanted : ∃ rest, s.supervisor.tasks = .run :: rest
  begun : step (system plan body) s = some a

end Phases

section Steps

variable [Scalar τ] [Exact τ] {plan : Plan τ} {body : Body τ β} {start : τ}
  {users : List Nat} {a s t : RunState τ β}

/-- Later limits are later times. -/
theorem limit_mono (start : τ) {m n : Nat} (le : m ≤ n) : plan.limit start m ≤ plan.limit start n :=
  Exact.add_ofNat_le _ le

/-- Every limit is past the time of the run. -/
theorem le_limit (start : τ) (n : Nat) :
    start + plan.options.maxDuration ≤ plan.limit start n :=
  Exact.le_add (Exact.ofNat_nonneg n)

/-- A wait of some seconds that begins no later than a limit ends no later than that many seconds
after it. -/
theorem add_le_limit {now : τ} {m : Nat} (le : now ≤ plan.limit start m) (n : Nat) :
    now + Scalar.ofNat n ≤ plan.limit start (m + n) := by
  have later := Exact.add_le_add_right now _ (Scalar.ofNat n) le
  rwa [Plan.limit, Exact.add_ofNat] at later

/-- Overtime is not over yet: the clock cannot pass what the director waits for. -/
theorem Overtime.early {last : Nat} (past : Overtime plan start last s) :
    s.now ≤ plan.limit start last := by
  obtain ⟨crew, limit, watch, bound⟩ := past.watched
  exact Exact.le_trans _ _ _ watch.early bound

/-- The watch goes on with the same users and the same limit. -/
theorem Overtime.meanwhile {last : Nat} (past : Overtime plan start last s)
    (meanwhile : Meanwhile s t) : Overtime plan start last t := by
  obtain ⟨crew, limit, watch, bound⟩ := past.watched
  exact ⟨Exact.le_trans _ _ _ past.late meanwhile.now, crew, limit,
    meanwhile.watch crew limit watch, bound⟩

/-- What is no turn of the director leaves it waiting as it was. -/
theorem Timed.meanwhile {phase : Phase τ} (timed : Timed plan start users s phase)
    (meanwhile : Meanwhile s t) : Timed plan start users t phase := by
  cases timed with
  | watching watch => exact .watching (meanwhile.watch _ _ watch)
  | grace failure crew watch others =>
    exact .grace failure crew (meanwhile.watch _ _ watch)
      fun i member => (others i member).imp_right (meanwhile.ended i)
  | settling failure dismissed past => exact .settling failure dismissed (past.meanwhile meanwhile)
  | failing cause crew past => exact .failing cause crew (past.meanwhile meanwhile)
  | failed cause dismissed past => exact .failed cause dismissed (past.meanwhile meanwhile)

/-- A wait that the director begins is timed like its phase, and it dismisses nobody too early. -/
theorem timed_wait {phase phase' : Phase τ} {lifecycle : Lifecycle} {dismiss crew : List Nat}
    {limit : τ} (timed : Timed plan start users s phase) (crew_ : s.world.crew = users)
    (ready : s.attention = .ready) (now : t.now = s.now)
    (ended : ∀ i, s.view.hasEnded i → t.view.hasEnded i)
    (wait : Wait s.glance s.world phase phase' lifecycle dismiss crew limit)
    (watch : 0 ≤ limit → Watch crew (s.now + limit) t) :
    Timed plan start users t phase' ∧ (dismiss ≠ [] → plan.limit start 5 ≤ s.now) := by
  -- Whoever is waited for afresh is watched for as long as the stage takes.
  have overtime {last more : Nat} (same : limit = Scalar.ofNat more)
      (late : plan.limit start 5 ≤ s.now) (early : s.now ≤ plan.limit start last) :
      Overtime plan start (last + more) t := by
    subst same
    exact ⟨now ▸ late, crew, _, watch (Exact.ofNat_nonneg more), add_le_limit early more⟩
  cases wait with
  | overrun start' left =>
    cases timed with
    | watching watch' =>
      -- The wait for the users took just the time of the run.
      rw [crew_] at left watch ⊢
      have past : s.now = start + plan.options.maxDuration :=
        Exact.le_antisymm _ _ watch'.early (watch'.limit_le_of_pending ready left)
      refine ⟨.grace _ _ ?_ ?_, fun some_ => absurd rfl some_⟩
      · have watched := watch (Exact.ofNat_nonneg 5)
        rwa [past] at watched
      · intro i member
        by_cases active : s.view.hasEnded i
        · exact .inr (ended i active)
        · exact .inl (State.mem_pending.mpr ⟨member, active⟩)
  | drain start' failure crew' left =>
    cases timed with
    | grace failure crew'' watch' others =>
      -- The grace was watched up to five seconds, so whoever is left is dismissed at just that
      -- time.
      have late := watch'.limit_le_of_pending ready left
      exact ⟨.settling _ _ (overtime rfl late watch'.early), fun _ => late⟩
  | fail start' cause stage past ordinary left =>
    cases timed with
    | grace failure crew' watch' others =>
      -- Everybody has ended in the time of grace, so nobody is left.
      rw [crew_] at left
      obtain ⟨i, member⟩ := List.exists_mem_of_ne_nil _ left
      obtain ⟨inside, active⟩ := State.mem_pending.mp member
      rcases others i inside with waited | before
      · exact absurd (State.ended_of_pending past waited) active
      · exact absurd before active
    | settling failure dismissed past' =>
      -- The wait for the dismissed is over by seven seconds at most, and another five are
      -- granted.
      exact ⟨.failing _ _ (overtime rfl past'.late past'.early), fun some_ => absurd rfl some_⟩
  | settle cause crew' left =>
    cases timed with
    | failing cause crew'' past =>
      exact ⟨.failed _ _ (overtime rfl past.late past.early), fun _ => past.late⟩

/-- When a run is over its time is not, and either its users have ended or they have been dismissed
in time. -/
theorem over_of_concludes {phase : Phase τ} {begun : τ} {failure : Option Fault}
    (timed : Timed plan start users s phase) (crew : s.world.crew = users)
    (past : Concludes s.glance s.world phase begun failure) :
    begun = start ∧ s.now ≤ plan.limit start 7 ∧
      ∀ i ∈ users, s.view.hasEnded i ∨ plan.limit start 5 ≤ s.now := by
  -- How the wait ended says which phase it was, and that phase is timed.
  cases past with
  | watched _ _ found ended =>
    cases timed with
    | watching watch =>
      rw [crew] at ended
      exact ⟨rfl, Exact.le_trans _ _ _ watch.early (le_limit start 7),
        fun i member => .inl (State.ended_of_pending ended member)⟩
  | drained _ _ stage past =>
    cases timed with
    | grace _ crew' watch others =>
      -- In the time of grace everybody has been waited for or has ended before.
      refine ⟨rfl, Exact.le_trans _ _ _ watch.early (limit_mono start (by omega)), ?_⟩
      intro i member
      rcases others i member with waited | before
      · exact .inl (State.ended_of_pending past waited)
      · exact .inl before
    | settling _ dismissed past' => exact ⟨rfl, past'.early, fun i member => .inr past'.late⟩

/-- A verdict on the run is given in time, whichever it is. -/
theorem over_of_verdict {phase : Phase τ} {lifecycle : Lifecycle} {report : Report τ}
    (timed : Timed plan start a.world.crew s phase) (crew : s.world.crew = a.world.crew)
    (verdict : Verdict s.glance s.world phase lifecycle report.ending)
    (time : report.time = s.now)
    (completes : ∀ result, report.ending = .result result →
      Completes plan s.world report result) : EndsInTime plan start a s report := by
  obtain ⟨ending, _, active, claimed, reported⟩ := report
  dsimp only at verdict time
  subst time
  -- A result is told when the wait is over; a failure may have taken a second shutdown first.
  cases verdict with
  | completed past result starts ends =>
    obtain ⟨same, early, users⟩ := over_of_concludes timed crew past
    refine ⟨completes, ?_, nofun, users⟩
    intro other told
    obtain rfl := Ending.result.inj told
    exact ⟨starts.trans same, ends ▸ early⟩
  | failed past ordinary ended =>
    obtain ⟨-, early, users⟩ := over_of_concludes timed crew past
    exact ⟨completes, nofun, fun _ _ => Exact.le_trans _ _ _ early (limit_mono start (by omega)),
      users⟩
  | settled cause stage past =>
    refine ⟨completes, nofun, fun _ _ => ?_, fun i _ => .inr ?_⟩
    · cases timed with
      | failing _ crew' past' =>
        exact Exact.le_trans _ _ _ past'.early (limit_mono start (by omega))
      | failed _ dismissed past' => exact past'.early
    · cases timed with
      | failing _ crew' past' => exact past'.late
      | failed _ dismissed past' => exact past'.late
  | aborted past grave =>
    obtain ⟨-, -, users⟩ := over_of_concludes timed crew past
    exact ⟨completes, nofun, nofun, users⟩

/-- A run that has just begun is on time. -/
theorem onTime_of_begins (positive : 0 ≤ plan.options.maxDuration) (regular : Regular s)
    (begins : Begins plan body s a) : OnTime plan s.now a a := by
  obtain ⟨⟨rest, round⟩, idle, ⟨tasks', wanted⟩, begun⟩ := begins
  -- The next turn is the director's, so the step is one of its duties.
  have directs : Directs plan s a (Director.supervise plan s.glance s.world s.supervisor) := by
    rcases step_cases (system plan body) s a begun with
      ⟨job, rest', round', rfl⟩ | ⟨round', -⟩
    · obtain ⟨rfl, rfl⟩ := List.cons.inj (round.symm.trans round')
      exact directs_supervisor regular round
    · rw [round] at round'
      cases round'
  obtain ⟨duty, ready, supervisor, world, now, watch, ended, dismissed⟩ := directs
  generalize Director.supervise plan s.glance s.world s.supervisor = command at *
  -- Idle with a run to do, the director can only begin it.
  cases duty with
  | finishes _ tasks same =>
    rw [wanted] at tasks
    cases tasks
  | reports task rest other _ tasks stop world asked same =>
    rw [wanted] at tasks
    exact absurd (List.cons.inj tasks).1.symm other
  | waits carries crew limit order wait reports => exact absurd idle (busy_of_wait wait)
  | ends carries dismiss order phase report reports time lifecycle verdict completes =>
    exact absurd idle (busy_of_verdict verdict)
  | begins rest _ tasks same =>
    subst same
    have crew : a.world.crew =
        (List.range (min plan.options.vus plan.options.iterations)).map
          (s.workers.length + ·) := by
      rw [world]
      simp [Director.begin, State.glance]
    refine ⟨?_, rfl, rfl, ?_, [], rfl, fun _ _ listed => absurd listed List.not_mem_nil⟩
    · rw [supervisor, crew]
      have watched := watch _ _ rfl positive
      simp only [State.glance, List.length_map] at watched
      exact .watching watched
    · -- Nobody has dismissed the users, who are new.
      intro i member struck
      rcases dismissed i struck with ⟨standing, placed, -⟩ | listed
      · obtain ⟨vu, -, rfl⟩ := List.mem_map.mp (crew ▸ member)
        obtain ⟨inside, -⟩ := List.getElem?_eq_some_iff.mp placed
        have known : s.workers.length + vu < s.workers.length :=
          inside.trans_eq (List.length_map _)
        omega
      · cases listed

/-- A step of a run under way keeps it on time, or ends it. -/
theorem onTime_of_passes (regular : Regular s) (onTime : OnTime plan start a s)
    (passes : Passes plan body s t) : OnTime plan start a t ∨
      ∃ report, t.supervisor.reports = report :: a.supervisor.reports ∧
        EndsInTime plan start a s report := by
  obtain ⟨timed, crew, reports, dismissed, latest, history, late⟩ := onTime
  rcases passes_cases regular passes with meanwhile | ⟨rest, round, directs⟩
  · -- While the director does not move, users and clock keep to what it waits for.
    left
    obtain ⟨latest', history', calm⟩ := meanwhile.history
    refine ⟨?_, meanwhile.crew.trans crew, ?_, ?_, latest' ++ latest, ?_, ?_⟩
    · rw [meanwhile.supervisor]
      exact timed.meanwhile meanwhile
    · rw [meanwhile.supervisor]
      exact reports
    · intro i member struck
      exact Exact.le_trans _ _ _ (dismissed i member (meanwhile.dismissed i struck)) meanwhile.now
    · rw [history', history, List.append_assoc]
    · intro worker time member
      rcases List.mem_append.mp member with new | old
      · exact absurd new (calm worker time)
      · exact late worker time old
  · obtain ⟨duty, ready, supervisor, world, now, watch, ended, dismissed'⟩ := directs
    generalize Director.supervise plan s.glance s.world s.supervisor = command at *
    -- The run is under way, so the director is not idle.
    have busy (idle : s.supervisor.phase = .idle) : False := by
      rw [idle] at timed
      cases timed
    cases duty with
    | finishes idle tasks same => exact (busy idle).elim
    | begins rest idle tasks same => exact (busy idle).elim
    | reports task rest other idle tasks stop world asked same => exact (busy idle).elim
    | waits carries crew' limit order wait reports' =>
      left
      obtain ⟨timed', strikes⟩ :=
        timed_wait timed crew ready now ended wait (watch crew' limit order)
      obtain ⟨latest', history', mine⟩ := carries.remarks.history
      refine ⟨?_, ?_, ?_, ?_, latest' ++ latest, ?_, ?_⟩
      · rw [supervisor]
        exact timed'
      · rw [world, carries.remarks.crew, crew]
      · rw [supervisor, reports', reports]
      · rw [now]
        intro i member struck
        rcases dismissed' i struck with before | listed
        · exact dismissed i member before
        · exact strikes (List.ne_nil_of_mem listed)
      · rw [world, history', history, List.append_assoc]
      · intro worker time member
        rcases List.mem_append.mp member with new | old
        · obtain ⟨listed, rfl⟩ := mine _ new
          exact strikes (List.ne_nil_of_mem listed)
        · exact late worker time old
    | ends carries dismiss order phase report reports' time lifecycle verdict completes =>
      refine .inr ⟨report, ?_, over_of_verdict timed crew verdict time completes⟩
      rw [supervisor, reports', reports]

omit [Exact τ] in
/-- The reports of a session only become more. -/
theorem reports_of_reaches (reaches : Reaches plan body s t) :
    ∃ later, t.supervisor.reports = later ++ s.supervisor.reports := by
  refine kept_of_reaches
    (motive := fun v => ∃ later, v.supervisor.reports = later ++ s.supervisor.reports) plan body ?_
    ⟨[], rfl⟩ reaches
  -- Only the director reports, and it puts the new report in front.
  rintro v v' ⟨later, told⟩ changes
  cases changes with
  | quiet untouched stop supervisor crew => exact ⟨later, by rw [supervisor, told]⟩
  | strode i user found stage outcome stride stop supervisor crew =>
    exact ⟨later, by rw [supervisor, told]⟩
  | hired tasks reports untouched stop crew phase => exact ⟨later, by rw [reports, told]⟩
  | directed tasks phase reports untouched stop crew shuts =>
    rcases reports with same | ⟨report, more, -⟩
    · exact ⟨later, by rw [same, told]⟩
    · exact ⟨report :: later, by rw [more, told, List.cons_append]⟩

/-- A run is under way, or it has ended at some point of the course. -/
theorem onTime_or_endsInTime (regular : Regular a) (onTime : OnTime plan start a a)
    (course : Course plan body a s) : OnTime plan start a s ∨
      ∃ b c report, Course plan body a b ∧ Passes plan body b c ∧ Course plan body c s ∧
        c.supervisor.reports = report :: a.supervisor.reports ∧
        EndsInTime plan start a b report := by
  -- Induction on the course: the run that was under way so far goes on, or ends with this step.
  induction course with
  | refl => exact .inl onTime
  | @tail s t course passes ih =>
    rcases ih with onTime | ⟨b, c, report, first, made, later, reports, past⟩
    · rcases onTime_of_passes (regular_of_course regular course) onTime passes with
        onTime | ⟨report, reports, past⟩
      · exact .inl onTime
      · exact .inr ⟨s, t, report, course, passes, .refl, reports, past⟩
    · exact .inr ⟨b, c, report, first, made, later.tail passes, reports, past⟩

variable (plan body) in
/-- The time limits of a run that has begun in `a` at `start`, at a later point of the session. -/
structure Limits (start : τ) (a s : RunState τ β) : Prop where
  /-- As long as the run has not ended, it dismisses nobody earlier than five seconds after its
  time is over. -/
  dismissals : s.supervisor.reports = a.supervisor.reports →
    (∃ latest, s.world.history = latest ++ a.world.history ∧
      ∀ worker time, .dismissed worker time ∈ latest → plan.limit start 5 ≤ time) ∧
    ∀ i ∈ a.world.crew, ∀ w, s.workers[i]? = some w → w.dismissed = true →
      plan.limit start 5 ≤ s.now
  /-- A result is given no later than seven seconds after its time is over. -/
  results : ∀ later report, s.supervisor.reports = later ++ report :: a.supervisor.reports →
    ∀ result, report.ending = .result result →
      result.startTime = start ∧ result.endTime ≤ plan.limit start 7
  /-- A run fails no later than fourteen seconds after its time is over. -/
  failures : ∀ later report, s.supervisor.reports = later ++ report :: a.supervisor.reports →
    ∀ cause, report.ending = .failed cause → report.time ≤ plan.limit start 14
  /-- The summary of a result counts all iterations that have been settled when it is taken, and no
  user of the run ends one between then and five seconds after its time is over. -/
  counted : ∀ later report, s.supervisor.reports = later ++ report :: a.supervisor.reports →
    ∀ result, report.ending = .result result → ∃ b c summary,
      Course plan body a b ∧ Passes plan body b c ∧ Course plan body c s ∧
      c.supervisor.reports = report :: a.supervisor.reports ∧
      result.summary = some summary ∧
      summary.iterations = (Lap.settled b.world.laps).countP (·.2.isNone) ∧
      summary.iterationErrors = (Lap.faults b.world.laps).length ∧
      ∀ d e, Course plan body b d → Passes plan body d e → d.now < plan.limit start 5 →
        e.world.laps = d.world.laps ∨
          ∃ i rest, d.round = .turn (.worker i) :: rest ∧ i ∉ a.world.crew

/-- Whoever of the users is still at work after the run is so in overtime. -/
theorem laps_of_endsInTime {report : Report τ} (regular : Regular s)
    (past : EndsInTime plan start a s report) (course : Course plan body s t) {u : RunState τ β}
    (passes : Passes plan body t u) (early : t.now < plan.limit start 5) :
    u.world.laps = t.world.laps ∨
      ∃ i rest, t.round = .turn (.worker i) :: rest ∧ i ∉ a.world.crew := by
  refine (laps_of_passes (regular_of_course regular course) passes).imp_right ?_
  -- Only a user of the run that is still active is in question.
  rintro ⟨i, rest, round, active⟩
  refine ⟨i, rest, round, ?_⟩
  intro member
  rcases past.users i member with ended | late
  · exact active (ended_of_course regular course ended)
  · exact (Exact.lt_iff _ _).mp early (Exact.le_trans _ _ _ late (now_of_course regular course))

omit [Exact τ] in
/-- A run under way has made no report yet. -/
theorem limits_of_onTime (onTime : OnTime plan start a s) : Limits plan body start a s := by
  -- A report of the run would make the list of reports longer than it is.
  have unreported {later : List (Report τ)} {report : Report τ}
      (told : s.supervisor.reports = later ++ report :: a.supervisor.reports) : False := by
    have length := congrArg List.length (onTime.reports.symm.trans told)
    simp at length
    omega
  refine ⟨fun _ => ⟨onTime.history, ?_⟩, fun _ _ told => (unreported told).elim,
    fun _ _ told => (unreported told).elim, fun _ _ told => (unreported told).elim⟩
  intro i member w found struck
  exact onTime.dismissed i member ⟨w.standing, by simp [State.view, found], struck⟩

/-- A run that ended in time has kept its limits, whatever comes after it. -/
theorem limits_of_endsInTime {b c : RunState τ β} {report : Report τ} (regular : Regular a)
    (first : Course plan body a b) (made : Passes plan body b c) (later : Course plan body c s)
    (reports : c.supervisor.reports = report :: a.supervisor.reports)
    (past : EndsInTime plan start a b report) (counted : Counted b.world.books) :
    Limits plan body start a s := by
  obtain ⟨latest, more⟩ := reports_of_reaches
    (reaches_of_course (regular_of_passes (regular_of_course regular first) made) later)
  rw [reports] at more
  -- The report of the run is the one it ended with.
  have same {later : List (Report τ)} {other : Report τ}
      (told : s.supervisor.reports = later ++ other :: a.supervisor.reports) : other = report := by
    rw [more] at told
    have parts := List.append_inj' told (by simp)
    exact (List.cons.inj parts.2).1.symm
  refine ⟨?_, ?_, ?_, ?_⟩
  · intro unreported
    have length := congrArg List.length (unreported.symm.trans more)
    simp at length
    omega
  · intro later other told
    rw [same told]
    exact past.result
  · intro later other told
    rw [same told]
    exact past.failed
  · intro later' other told result ending
    rw [same told] at ending
    have completes := past.completes result ending
    refine ⟨b, c, _, first, made, later, by rw [same told, reports], completes.summary, ?_, ?_, ?_⟩
    · exact congrArg _ counted.returned
    · have failed : b.world.collector.iterationErrors =
          Collector.blame (Lap.faults b.world.laps) := counted.failed
      have errors : b.world.collector.errorCount = (Lap.faults b.world.laps).length := by
        rw [Collector.errorCount, failed, Collector.sum_blame]
      exact congrArg _ errors
    · intro d e course passes early
      exact laps_of_endsInTime (regular_of_course regular first) past course passes early

/-- Whatever its users do, whatever signals come in and whoever asks for a stop, a run keeps its
time limits. -/
theorem limits_of_course (plan : Plan τ) (body : Body τ β) (tasks : List Task)
    (transport : Transport τ) (now : τ) (positive : 0 ≤ plan.options.maxDuration)
    (before a s : RunState τ β)
    (comes : Course plan body (initial tasks transport now) before)
    (begins : Begins plan body before a) (course : Course plan body a s) :
    Limits plan body before.now a s := by
  have regular : Regular before := regular_of_course (regular_initial tasks transport now) comes
  have regular' : Regular a := regular_of_passes regular (.stepped begins.begun)
  have onTime : OnTime plan before.now a a := onTime_of_begins positive regular begins
  rcases onTime_or_endsInTime regular' onTime course with
    onTime | ⟨b, c, report, first, made, later, reports, past⟩
  · exact limits_of_onTime onTime
  · have comes' : Course plan body (initial tasks transport now) b :=
      (comes.tail (.stepped begins.begun)).trans first
    have reaches : Reaches plan body (initial tasks transport now) b :=
      reaches_of_course (regular_initial tasks transport now) comes'
    exact limits_of_endsInTime regular' first made later reports past (counted_of_reaches reaches)

omit [Exact τ] in
/-- To let the system run for a while is to take a course. -/
theorem course_conduct (budget : Nat) (s : RunState τ β) :
    Course plan body s (conduct (system plan body) budget s) := by
  induction budget generalizing s with
  | zero => exact .refl
  | succ budget ih =>
    unfold conduct
    split
    · exact .refl
    · split
      · exact .refl
      next t stepped => exact .head (.stepped stepped) (ih t)

end Steps

/-- The run of the stubborn user fails in time, three seconds after that user was dismissed. -/
theorem limits_stubborn : 0 ≤ Stubborn.plan.options.maxDuration ∧
    Course Stubborn.plan Stubborn.body Stubborn.start (Stubborn.after 1) ∧
    Begins Stubborn.plan Stubborn.body (Stubborn.after 1) (Stubborn.after 2) ∧
    Course Stubborn.plan Stubborn.body (Stubborn.after 2) (Stubborn.after 40) ∧
    ((Stubborn.after 40).supervisor.reports.map fun report => (report.isFailed, report.time)) =
      [(true, 9)] ∧
    Limits Stubborn.plan Stubborn.body 0 (Stubborn.after 2) (Stubborn.after 40) := by
  have positive : 0 ≤ Stubborn.plan.options.maxDuration := by decide +kernel
  have comes : Course Stubborn.plan Stubborn.body Stubborn.start (Stubborn.after 1) :=
    course_conduct 1 _
  have begins : Begins Stubborn.plan Stubborn.body (Stubborn.after 1) (Stubborn.after 2) :=
    ⟨⟨[], rfl⟩, rfl, ⟨[], rfl⟩, rfl⟩
  have course : Course Stubborn.plan Stubborn.body (Stubborn.after 2) (Stubborn.after 40) := by
    have split := conduct_add (system Stubborn.plan Stubborn.body) 2 38 Stubborn.start
    rw [Stubborn.after, Stubborn.after, split]
    exact course_conduct 38 _
  exact ⟨positive, comes, begins, course, by decide +kernel,
    limits_of_course Stubborn.plan Stubborn.body [.run] Stubborn.transport 0 positive _ _ _ comes
      begins course⟩

end Run

end Volley
