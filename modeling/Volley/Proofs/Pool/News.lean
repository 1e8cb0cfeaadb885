import Volley.Proofs.Pool.Schedule

/-!
# The news reach the supervisor

A supervisor that waits for a crew is attentive: everyone in the crew who has ended is still news in
the queue. So once the whole crew has ended and nobody else takes turns, the supervisor gets its
turn: every step brings it nearer, because either it waits for fewer workers, or the next round
begins, in which a job is for it, or one job less of the round is left.

## Main definitions

- `Pool.Attentive`: the invariant of a waiting supervisor.
- `Pool.Waiting`: everyone has ended but the supervisor.

## Main results

- `attentive_step`: other steps than turns of the supervisor keep it attentive.
- `comes_to_supervisor`: in a waiting pool the supervisor gets its turn.
-/

namespace Volley

namespace Pool

variable {τ ω σ κ : Type}

/-- What is seen of a worker tells that it has ended. -/
def View.hasEnded (v : View ω σ κ) (i : Nat) : Prop :=
  ∃ standing, v.crew[i]? = some standing ∧ standing.outcome ≠ none

/-- A supervisor that waits for a crew will hear of everyone in it who has ended. -/
structure Attentive (s : State τ ω σ κ) : Prop where
  calm : s.demand = none
  going : s.closing = false
  unclosed : Job.close ∉ s.jobs
  some_ : ∀ crew, s.attention = .awaiting crew → crew ≠ []
  distinct : ∀ crew, s.attention = .awaiting crew → crew.Nodup
  known : ∀ crew, s.attention = .awaiting crew → ∀ i ∈ crew, i < s.view.crew.length
  news : ∀ crew, s.attention = .awaiting crew → ∀ i ∈ crew, s.view.hasEnded i →
    Job.news i ∈ s.jobs

/-- The supervisor of a new pool waits for nobody. -/
theorem attentive_new (now : τ) (supervisor : σ) (world : ω) :
    Attentive ({ now, supervisor, world } : State τ ω σ κ) := by
  refine ⟨rfl, rfl, ?_, ?_, ?_, ?_, ?_⟩
  all_goals simp [State.jobs]

/-! ### What happens aside of the supervisor -/

/-- What happened took no news away and did not concern the supervisor. -/
structure Aside (s t : State τ ω σ κ) : Prop where
  attention : t.attention = s.attention
  demand : s.demand = none → t.demand = none
  closing : t.closing = s.closing
  news : ∀ i, Job.news i ∈ s.jobs → Job.news i ∈ t.jobs
  close : Job.close ∈ t.jobs → Job.close ∈ s.jobs

theorem Aside.refl (s : State τ ω σ κ) : Aside s s :=
  ⟨rfl, id, rfl, fun _ => id, id⟩

theorem Aside.trans {s t u : State τ ω σ κ} (first : Aside s t) (second : Aside t u) : Aside s u :=
  ⟨second.attention.trans first.attention, second.demand ∘ first.demand,
    second.closing.trans first.closing, fun i queued => second.news i (first.news i queued),
    first.close ∘ second.close⟩

namespace State

/-- With the jobs that there were, all news are still there. -/
theorem aside_jobs {s t : State τ ω σ κ} (attention : t.attention = s.attention)
    (demand : t.demand = s.demand) (closing : t.closing = s.closing) (jobs : t.jobs = s.jobs) :
    Aside s t :=
  ⟨attention, fun calm => demand.trans calm, closing, fun i queued => by rwa [jobs],
    fun queued => by rwa [jobs] at queued⟩

/-- A job that is added takes no news away. -/
theorem aside_enqueue (s : State τ ω σ κ) {job : Job} (other : job ≠ .close) :
    Aside s (s.enqueue job) := by
  refine ⟨rfl, id, rfl, ?_, ?_⟩
  · intro i queued
    simpa [enqueue, jobs, or_assoc] using Or.inl (List.mem_append.mp queued)
  · intro queued
    simpa [enqueue, jobs, Ne.symm other] using queued

theorem aside_proceed (s : State τ ω σ κ) (member : Member) : Aside s (s.proceed member) := by
  refine ⟨rfl, id, rfl, ?_, ?_⟩
  · intro i queued
    simpa [proceed, jobs] using queued
  · intro queued
    simpa [proceed, jobs] using queued

theorem aside_clearTimers (s : State τ ω σ κ) (member : Member) :
    Aside s (s.clearTimers member) := by
  refine ⟨rfl, id, rfl, ?_, ?_⟩
  · intro i queued
    simpa [clearTimers, jobs] using queued
  · intro queued
    simpa [clearTimers, jobs] using queued

/-- Those who wait for the flag get their turns behind all other jobs. -/
theorem aside_raiseStop (s : State τ ω σ κ) : Aside s s.raiseStop := by
  refine ⟨rfl, id, rfl, ?_, ?_⟩
  · intro i queued
    simp only [raiseStop, jobs, List.mem_append] at queued ⊢
    exact queued.imp_right .inl
  · intro queued
    simpa [raiseStop, jobs] using queued

/-- An announcement adds news, and takes none away. -/
theorem aside_announce (s : State τ ω σ κ) (i : Nat) : Aside s (s.announce i) := by
  unfold announce
  split
  · split
    · exact s.aside_enqueue (by simp)
    · exact .refl s
  · exact .refl s

/-- A worker that pauses takes no news away, and does not halt the pool unless it demands to. -/
theorem aside_pauseWorker [Scalar τ] (s : State τ ω σ κ) (i : Nat) (pause : Pause τ)
    (tame : ∀ outcome, pause = .finish outcome → outcome.demand? = none) :
    Aside s (s.pauseWorker i pause) := by
  have marked (status : Status) : Aside s (s.mark i status) := aside_jobs rfl rfl rfl rfl
  unfold pauseWorker
  split
  next => exact s.aside_proceed _
  next time =>
    split
    · exact s.aside_enqueue (by simp)
    · exact (marked .resting).trans (aside_jobs rfl rfl rfl rfl)
  next =>
    split
    · exact s.aside_proceed _
    · exact marked .awaitingStop
  next => exact marked .resting
  next outcome =>
    -- Only the end of a worker may halt the pool, and a tame one does not.
    have announced := (marked (.ended outcome)).trans ((s.mark i (.ended outcome)).aside_announce i)
    exact ⟨announced.attention, fun _ => tame outcome rfl, announced.closing, announced.news,
      announced.close⟩

/-- If a worker ends that is waited for, it is news. -/
theorem news_pauseWorker [Scalar τ] (s : State τ ω σ κ) (i : Nat) (outcome : Outcome)
    (crew : List Nat) (awaiting : s.attention = .awaiting crew) (member : i ∈ crew) :
    Job.news i ∈ (s.pauseWorker i (.finish outcome)).jobs := by
  have attention : (s.mark i (.ended outcome)).attention = .awaiting crew := awaiting
  simp [pauseWorker, finishWorker, announce, attention, member, enqueue, jobs]

end State

/-- What happens aside keeps the supervisor attentive, if whoever ends by it is news. -/
theorem Attentive.aside {s t : State τ ω σ κ} (attentive : Attentive s) (aside : Aside s t)
    (more : s.view.crew.length ≤ t.view.crew.length)
    (ended : ∀ i, t.view.hasEnded i → s.view.hasEnded i ∨
      ∀ crew, s.attention = .awaiting crew → i ∈ crew → Job.news i ∈ t.jobs) : Attentive t := by
  obtain ⟨calm, going, unclosed, some_, distinct, known, news⟩ := attentive
  obtain ⟨attention, demand, closing, kept, close⟩ := aside
  refine ⟨demand calm, closing.trans going, fun queued => unclosed (close queued), ?_, ?_, ?_, ?_⟩
  · rwa [attention]
  · rwa [attention]
  · rw [attention]
    exact fun crew awaiting i member => Nat.lt_of_lt_of_le (known crew awaiting i member) more
  · -- Of whoever has ended the news are queued still, or are queued now.
    rw [attention]
    intro crew awaiting i member finished
    rcases ended i finished with before | told
    · exact kept i (news crew awaiting i member before)
    · exact told crew awaiting member

theorem Attentive.of_view {s t : State τ ω σ κ} (attentive : Attentive s) (aside : Aside s t)
    (same : t.view = s.view) : Attentive t :=
  attentive.aside aside (Nat.le_of_eq (by rw [same])) fun i ended => .inl (by rwa [same] at ended)

/-! ### Steps of an attentive pool -/

section Steps

variable [Scalar τ]

/-- A turn of a worker happens aside of the supervisor, and if it is the last one it is news. -/
theorem aside_runWorker (sys : System τ ω σ κ) (s : State τ ω σ κ) (i : Nat) (w : Worker κ)
    (found : s.workers[i]? = some w)
    (tame : ∀ outcome, (sys.work s.glance s.world w.state
      (if w.dismissed then .dismissed else .elapsed)).pause = .finish outcome →
        outcome.demand? = none) :
    Aside s (runWorker sys s i) ∧ ∀ outcome, (sys.work s.glance s.world w.state
      (if w.dismissed then .dismissed else .elapsed)).pause = .finish outcome →
        ∀ crew, s.attention = .awaiting crew → i ∈ crew →
          Job.news i ∈ (runWorker sys s i).jobs := by
  rw [runWorker_of_found sys found]
  generalize sys.work s.glance s.world w.state _ = turn at tame
  have before : Aside s (turned s i w turn) :=
    related_turned Aside.refl Aside.trans s i w turn (s.aside_clearTimers _)
      (fun t same => State.aside_jobs rfl rfl rfl rfl) State.aside_raiseStop
      fun t => t.aside_enqueue (by simp)
  refine ⟨before.trans (State.aside_pauseWorker _ i turn.pause tame), ?_⟩
  intro outcome ends crew awaiting member
  rw [ends]
  exact State.news_pauseWorker _ i outcome crew (before.attention.trans awaiting) member

/-- A turn of a worker keeps the supervisor attentive. -/
theorem Attentive.runWorker {sys : System τ ω σ κ} {s : State τ ω σ κ} (attentive : Attentive s)
    (i : Nat) (w : Worker κ) (found : s.workers[i]? = some w) (active : w.outcome? = none)
    (tame : ∀ outcome, (sys.work s.glance s.world w.state
      (if w.dismissed then .dismissed else .elapsed)).pause = .finish outcome →
        outcome.demand? = none) : Attentive (runWorker sys s i) := by
  obtain ⟨aside, told⟩ := aside_runWorker sys s i w found tame
  have view := view_runWorker sys s i w found active
  refine attentive.aside aside (by rw [view]; simp [View.afterTurn]) ?_
  intro j ended
  rw [view] at ended
  obtain ⟨standing, placed, finished⟩ := ended
  simp only [View.afterTurn, List.getElem?_set] at placed
  split at placed
  next here =>
    subst here
    split at placed
    · cases placed
      -- If the one that took its turn has ended, it did so now, and it is news.
      cases pause : (sys.work s.glance s.world w.state
        (if w.dismissed then .dismissed else .elapsed)).pause with
      | finish outcome => exact .inr (told outcome pause)
      | _ => simp [pause, Pause.outcome?] at finished
    · cases placed
  next => exact .inl ⟨standing, placed, finished⟩

omit [Scalar τ] in
/-- A supervisor that is roused waits for nobody any more. -/
theorem Attentive.rouse {s : State τ ω σ κ} (attentive : Attentive s) : Attentive s.rouse := by
  have enqueued : Aside (s.clearTimers .supervisor)
      ((s.clearTimers .supervisor).enqueue (.turn .supervisor)) :=
    State.aside_enqueue _ (by simp)
  have aside := (s.aside_clearTimers .supervisor).trans enqueued
  refine ⟨aside.demand attentive.calm, aside.closing.trans attentive.going,
    fun queued => attentive.unclosed (aside.close queued), ?_, ?_, ?_, ?_⟩
  all_goals simp [State.rouse, State.enqueue]

omit [Scalar τ] in
/-- An alarm is no news, so none are lost with it. -/
theorem Attentive.ring {s : State τ ω σ κ} (attentive : Attentive s) (member : Member) :
    Attentive (s.ring member) := by
  have view := s.view_ring member
  cases member with
  | worker i =>
    refine attentive.of_view ?_ view
    unfold State.ring
    dsimp only
    split
    · split
      · exact Aside.trans (State.aside_jobs (t := s.mark i .ready) rfl rfl rfl rfl)
          (State.aside_enqueue _ (by simp))
      · exact .refl s
    · exact .refl s
  | supervisor =>
    unfold State.ring
    dsimp only
    split
    · exact attentive.rouse
    · exact attentive.rouse
    · exact attentive
    · exact attentive

omit [Scalar τ] in
/-- News that are heard are taken from those that are awaited, and so is the worker. -/
theorem Attentive.hear {s : State τ ω σ κ} {i : Nat} {rest : List Job}
    (attentive : Attentive s) (round : s.round = .news i :: rest) :
    Attentive (({ s with round := rest } : State τ ω σ κ).hear i) := by
  have queued (job : Job) : job ∈ s.jobs ↔
      job = .news i ∨ job ∈ ({ s with round := rest } : State τ ω σ κ).jobs := by
    simp [State.jobs, round]
  have unclosed : Job.close ∉ ({ s with round := rest } : State τ ω σ κ).jobs :=
    fun later => attentive.unclosed ((queued _).mpr (.inr later))
  have view := view_drop s (.news i) rest round (by simp)
  unfold State.hear
  split
  next crew awaiting =>
    have awaited : s.attention = .awaiting crew := awaiting
    have distinct := attentive.distinct crew awaited
    split
    next member =>
      split
      next last =>
        exact Attentive.rouse (s := { s with round := rest, attention := .ready })
          ⟨attentive.calm, attentive.going, unclosed, by simp, by simp, by simp, by simp⟩
      next others more =>
        -- The others are still waited for, and their news are still in the queue.
        have others_of (j : Nat) : j ∈ crew.erase i → j ∈ crew ∧ j ≠ i := fun inside =>
          ⟨List.mem_of_mem_erase inside, fun same => distinct.not_mem_erase (same ▸ inside)⟩
        refine ⟨attentive.calm, attentive.going, unclosed, ?_, ?_, ?_, ?_⟩
        · intro crew' same
          obtain rfl := Attention.awaiting.inj same
          exact more
        · intro crew' same
          obtain rfl := Attention.awaiting.inj same
          exact distinct.erase i
        · intro crew' same j inside
          obtain rfl := Attention.awaiting.inj same
          exact attentive.known crew awaited j (others_of j inside).1
        · intro crew' same j inside ended
          obtain rfl := Attention.awaiting.inj same
          obtain ⟨member, other⟩ := others_of j inside
          rcases (queued _).mp (attentive.news crew awaited j member ended) with same | later
          · exact absurd (Job.news.inj same) other
          · exact later
    next unknown =>
      -- News of somebody that is not waited for: no news of the crew is lost with it.
      have outside : i ∉ crew := by simpa using unknown
      refine ⟨attentive.calm, attentive.going, unclosed, attentive.some_, attentive.distinct,
        attentive.known, ?_⟩
      intro crew' same j inside ended
      obtain rfl := Attention.awaiting.inj (awaiting.symm.trans same)
      rcases (queued _).mp (attentive.news crew awaited j inside ended) with same | later
      · exact absurd (Job.news.inj same ▸ inside) outside
      · exact later
  -- Who does not wait for a crew misses nothing.
  next other =>
    have nobody (crew : List Nat) : s.attention ≠ .awaiting crew := other crew
    exact ⟨attentive.calm, attentive.going, unclosed, attentive.some_, attentive.distinct,
      attentive.known, fun crew awaiting => absurd awaiting (nobody crew)⟩

/-- A round that begins loses no news. -/
theorem Attentive.beginRound {s t : State τ ω σ κ} (attentive : Attentive s) (done : s.round = [])
    (begun : beginRound s = some t) : Attentive t := by
  have view := view_beginRound s t done begun
  refine attentive.of_view ?_ view
  unfold Pool.beginRound at begun
  dsimp only at begun
  split at begun
  · cases begun
  next jobs _ =>
    simp only [Option.some.injEq] at begun
    subst begun
    -- The queue becomes the round, and alarms are put behind it.
    refine ⟨rfl, id, rfl, ?_, ?_⟩
    · intro i queued
      simp only [State.jobs, done, List.nil_append] at queued
      simp [State.jobs, queued]
    · intro queued
      simpa [State.jobs, done] using queued

omit [Scalar τ] in
/-- Another job than news can be taken off the round. -/
theorem Attentive.drop {s : State τ ω σ κ} (attentive : Attentive s) {job : Job} {rest : List Job}
    (round : s.round = job :: rest) (nothing : ∀ i, job ≠ .news i) :
    Attentive { s with round := rest } := by
  refine attentive.aside ⟨rfl, id, rfl, ?_, ?_⟩ (Nat.le_refl _)
    fun i => .inl
  · intro i member
    simpa [State.jobs, round, Ne.symm (nothing i)] using member
  · intro member
    have later : Job.close ∈ rest ++ s.queue := member
    rw [State.jobs, round]
    exact .tail _ later

omit [Scalar τ] in
/-- A signal is no news. -/
theorem Attentive.runInterrupt {s : State τ ω σ κ} (attentive : Attentive s)
    (sys : System τ ω σ κ) : Attentive (runInterrupt sys s) := by
  have crew : (Pool.runInterrupt sys s).view.crew = s.view.crew := by
    rw [view_runInterrupt]
  have aside : Aside s (Pool.runInterrupt sys s) :=
    Aside.trans (t := { s with world := sys.interrupted s.glance s.world })
      (State.aside_jobs rfl rfl rfl rfl) (State.aside_raiseStop _)
  -- Signals end nobody.
  refine attentive.aside aside (Nat.le_of_eq (by rw [crew])) fun i ended => .inl ?_
  unfold View.hasEnded at ended ⊢
  rwa [crew] at ended

/-- A step keeps the supervisor attentive, unless it is its own turn or halts the pool. -/
theorem attentive_step (sys : System τ ω σ κ) (s t : State τ ω σ κ) (attentive : Attentive s)
    (inTurn : InTurn s) (stepped : step sys s = some t)
    (other : ∀ rest, s.round ≠ .turn .supervisor :: rest)
    (tame : ∀ i rest w outcome, s.round = .turn (.worker i) :: rest → s.workers[i]? = some w →
      (sys.work s.glance s.world w.state (if w.dismissed then .dismissed else .elapsed)).pause =
        .finish outcome → outcome.demand? = none) : Attentive t := by
  rcases step_cases sys s t stepped with ⟨job, rest, round, rfl⟩ | ⟨round, -, begun⟩
  · have queued : job ∈ s.jobs := by simp [State.jobs, round]
    have dropped := attentive.drop round
    cases job with
    | turn member =>
      cases member with
      | worker i =>
        obtain ⟨w, found, ready⟩ := inTurn.worker_of_mem queued
        exact (dropped (by simp)).runWorker i w found (outcome_of_ready ready)
          fun outcome => tame i rest w outcome round found
      | supervisor => exact absurd round (other rest)
    -- Each job but news is taken off first, and what it does happens aside or rouses the
    -- supervisor.
    | alarm member => exact (dropped (by simp)).ring member
    | news i => exact attentive.hear round
    | interrupt => exact (dropped (by simp)).runInterrupt sys
    | close => exact absurd queued attentive.unclosed
  · exact attentive.beginRound round begun

omit [Scalar τ] in
/-- An alarm puts nobody to sleep. -/
theorem awake_ring {s : State τ ω σ κ} (member : Member) (awake : s.attention ≠ .asleep) :
    (s.ring member).attention ≠ .asleep := by
  unfold State.ring
  split
  · split
    · split <;> exact awake
    · exact awake
  · split
    · nofun
    · nofun
    · exact awake
    · exact awake

omit [Scalar τ] in
/-- News put nobody to sleep. -/
theorem awake_hear {s : State τ ω σ κ} (i : Nat) (awake : s.attention ≠ .asleep) :
    (s.hear i).attention ≠ .asleep := by
  unfold State.hear
  split
  · split
    · split <;> nofun
    · exact awake
  · exact awake

/-- Only the supervisor itself falls asleep. -/
theorem awake_step (sys : System τ ω σ κ) (s t : State τ ω σ κ) (awake : s.attention ≠ .asleep)
    (inTurn : InTurn s) (stepped : step sys s = some t)
    (other : ∀ rest, s.round ≠ .turn .supervisor :: rest)
    (tame : ∀ i rest w outcome, s.round = .turn (.worker i) :: rest → s.workers[i]? = some w →
      (sys.work s.glance s.world w.state (if w.dismissed then .dismissed else .elapsed)).pause =
        .finish outcome → outcome.demand? = none) : t.attention ≠ .asleep := by
  rcases step_cases sys s t stepped with ⟨job, rest, round, rfl⟩ | ⟨round, -, begun⟩
  · cases job with
    | turn member =>
      cases member with
      | worker i =>
        obtain ⟨w, found, -⟩ := inTurn.worker_of_mem (i := i) (by simp [State.jobs, round])
        have aside := (aside_runWorker sys { s with round := rest } i w found
          fun outcome => tame i rest w outcome round found).1
        exact fun asleep => awake (aside.attention.symm.trans asleep)
      | supervisor => exact absurd round (other rest)
    | alarm member => exact awake_ring (s := { s with round := rest }) member awake
    | news i => exact awake_hear (s := { s with round := rest }) i awake
    | interrupt => exact awake
    | close => exact awake
  · unfold beginRound at begun
    dsimp only at begun
    split at begun
    · cases begun
    · obtain rfl := Option.some.inj begun
      exact awake

omit [Scalar τ] in
/-- A supervisor that begins to wait hears of those who have ended before. -/
theorem attentive_await (s : State τ ω σ κ) (crew : List Nat) (calm : s.demand = none)
    (going : s.closing = false) (unclosed : Job.close ∉ s.jobs) (some_ : crew ≠ [])
    (distinct : crew.Nodup) (known : ∀ i ∈ crew, i < s.view.crew.length) :
    Attentive (s.await crew) := by
  refine ⟨calm, going, ?_, ?_, ?_, ?_, ?_⟩
  · simpa [State.await, State.jobs] using unclosed
  · intro crew' same
    obtain rfl := Attention.awaiting.inj same
    exact some_
  · intro crew' same
    obtain rfl := Attention.awaiting.inj same
    exact distinct
  · intro crew' same
    obtain rfl := Attention.awaiting.inj same
    exact known
  · intro crew' same i member ended
    obtain rfl := Attention.awaiting.inj same
    obtain ⟨standing, placed, finished⟩ := ended
    have outcome : s.glance.outcome? i = standing.outcome := by
      have found : (s.workers.map Worker.standing)[i]? = some standing := placed
      rw [List.getElem?_map, Option.map_eq_some_iff] at found
      obtain ⟨w, here, rfl⟩ := found
      simp [State.glance, Glance.outcome?, here, Worker.standing]
    -- Who has ended before is not pending, so its news are queued now.
    have gone : i ∉ s.glance.pending crew := by
      simp [Glance.pending, outcome, Option.isNone_iff_eq_none, finished]
    simp [State.await, State.jobs, member, gone]

omit [Scalar τ] in
theorem aside_hire (s : State τ ω σ κ) (state : κ) : Aside s (s.hire state) :=
  Aside.trans (State.aside_jobs (t := { s with workers := s.workers ++ [{ state }] })
    rfl rfl rfl rfl) (State.aside_enqueue _ (by simp))

omit [Scalar τ] in
/-- Dismissals take no news away. -/
theorem aside_dismiss (s : State τ ω σ κ) (i : Nat) : Aside s (s.dismiss i) := by
  have replaced (w : Worker κ) : Aside s { s with workers := s.workers.set i w } :=
    State.aside_jobs rfl rfl rfl rfl
  unfold State.dismiss
  split
  · exact .refl s
  · split
    · exact .refl s
    · exact replaced _
    all_goals exact (replaced _).trans (State.aside_enqueue _ (by simp))

omit [Scalar τ] in
/-- What the supervisor does in its turn before it pauses takes no news away. -/
theorem aside_commanded (s : State τ ω σ κ) (command : Command τ ω σ κ) :
    Aside s (commanded s command) :=
  related_commanded Aside.refl Aside.trans s command (State.aside_jobs rfl rfl rfl rfl) aside_hire
    State.aside_raiseStop aside_dismiss

/-- A supervisor that pauses stays attentive, unless it has finished. -/
theorem Attentive.pauseSupervisor {s : State τ ω σ κ} (attentive : Attentive s) (order : Order τ)
    (working : order ≠ .finish)
    (waits : ∀ crew limit, order = .wait crew limit →
      crew.Nodup ∧ ∀ i ∈ crew, i < s.view.crew.length) : Attentive (s.pauseSupervisor order) := by
  have queued : Attentive (s.enqueue (.turn .supervisor)) :=
    attentive.of_view (s.aside_enqueue (by simp)) (s.view_enqueue (by simp))
  unfold State.pauseSupervisor
  split
  next => exact attentive.of_view (s.aside_proceed _) (s.view_proceed _)
  next time =>
    split
    · exact queued
    · exact ⟨attentive.calm, attentive.going, attentive.unclosed, nofun, nofun, nofun, nofun⟩
  next crew limit =>
    obtain ⟨distinct, known⟩ := waits crew limit rfl
    split
    · exact queued
    next some_ =>
      have awaits := attentive_await s crew attentive.calm attentive.going attentive.unclosed
        (by simpa using some_) distinct known
      split
      · exact awaits
      · exact awaits.of_view (State.aside_jobs rfl rfl rfl rfl) rfl
  next => exact absurd rfl working

/-- A supervisor that takes its turn stays attentive, unless it has finished. Its crew may name
those whom it hires. -/
theorem Attentive.runSupervisor {sys : System τ ω σ κ} {s : State τ ω σ κ}
    (attentive : Attentive s) (kept : s.givenUp = false) (ready : s.attention = .ready)
    (working : (sys.supervise s.glance s.world s.supervisor).order ≠ .finish)
    (waits : ∀ crew limit, (sys.supervise s.glance s.world s.supervisor).order =
      .wait crew limit → crew.Nodup ∧ ∀ i ∈ crew, i < s.view.crew.length +
        (sys.supervise s.glance s.world s.supervisor).hire.length) :
    Attentive (runSupervisor sys s) := by
  rw [runSupervisor_of_kept sys kept]
  generalize sys.supervise s.glance s.world s.supervisor = command at working waits
  have aside := aside_commanded s command
  have idle : (commanded s command).attention = .ready := aside.attention.trans ready
  -- Before it pauses the supervisor is ready, so there is no crew to be attentive to.
  have attentive' : Attentive (commanded s command) := by
    refine ⟨aside.demand attentive.calm, aside.closing.trans attentive.going,
      fun queued => attentive.unclosed (aside.close queued), ?_, ?_, ?_, ?_⟩
    all_goals simp [idle]
  refine attentive'.pauseSupervisor _ working ?_
  intro crew limit order
  rw [view_commanded]
  rw [← View.length_afterCommand] at waits
  exact waits crew limit order

/-- The end of a worker halts the pool just if it demands to. -/
theorem demand_runWorker (sys : System τ ω σ κ) (s : State τ ω σ κ) (i : Nat) (w : Worker κ)
    (found : s.workers[i]? = some w) {outcome : Outcome}
    (ends : (sys.work s.glance s.world w.state
      (if w.dismissed then .dismissed else .elapsed)).pause = .finish outcome) :
    (runWorker sys s i).demand = outcome.demand? := by
  rw [runWorker_of_found sys found, ends]
  rfl

/-- As long as nothing halts the pool, the supervisor stays attentive until its own turn. -/
theorem attentive_step_of_calm (sys : System τ ω σ κ) (s t : State τ ω σ κ)
    (attentive : Attentive s) (inTurn : InTurn s) (stepped : step sys s = some t)
    (other : ∀ rest, s.round ≠ .turn .supervisor :: rest) (calm : t.demand = none) :
    Attentive t := by
  refine attentive_step sys s t attentive inTurn stepped other ?_
  intro i rest w outcome round found ends
  rw [step_of_round sys s attentive.calm round, Option.some.injEq] at stepped
  rw [← stepped] at calm
  exact (demand_runWorker sys { s with round := rest } i w found ends).symm.trans calm

end Steps

/-! ### The turn of the supervisor comes -/

/-- Everyone has ended but the supervisor, which is ready or waits. -/
structure Waiting (s : State τ ω σ κ) : Prop where
  attentive : Attentive s
  inTurn : InTurn s
  ended : ∀ standing ∈ s.view.crew, standing.outcome ≠ none
  undisturbed : s.view.interrupts = 0
  working : s.view.finished = false
  awake : s.attention ≠ .asleep

/-- For how many the supervisor waits. -/
def State.awaited (s : State τ ω σ κ) : Nat :=
  match s.attention with
  | .awaiting crew => crew.length
  | _ => 0

/-- The jobs that bring the supervisor nearer to its turn: the turn itself, and news it waits for.
-/
def State.concerns (s : State τ ω σ κ) : Job → Bool
  | .turn .supervisor => true
  | .news i => match s.attention with
    | .awaiting crew => crew.contains i
    | _ => false
  | _ => false

/-- Whether a round is to begin before something happens that concerns the supervisor. -/
def State.far (s : State τ ω σ κ) : Nat :=
  if s.round.any s.concerns then 0 else 1

/-- The way to the turn of the supervisor, which every step makes shorter: first by those who are
awaited, then by the round, then by its jobs. -/
def State.distance (s : State τ ω σ κ) : Nat × Nat × Nat :=
  (s.awaited, s.far, s.round.length)

/-- In a waiting pool a job is queued that concerns the supervisor. -/
theorem Waiting.concerned {s : State τ ω σ κ} (waiting : Waiting s) :
    ∃ job ∈ s.jobs, s.concerns job = true := by
  obtain ⟨attentive, inTurn, ended, -, working, awake⟩ := waiting
  -- Either the supervisor is ready, and has its turn, or it waits for somebody who has ended.
  cases attention : s.attention with
  | ready => exact ⟨.turn .supervisor, inTurn.mem_of_attention attention, rfl⟩
  | asleep => exact absurd attention awake
  | awaiting crew =>
    obtain ⟨i, member⟩ := List.exists_mem_of_ne_nil _ (attentive.some_ crew attention)
    have inside := attentive.known crew attention i member
    have finished : s.view.hasEnded i :=
      ⟨_, List.getElem?_eq_getElem inside, ended _ (List.getElem_mem inside)⟩
    refine ⟨.news i, attentive.news crew attention i member finished, ?_⟩
    simp [State.concerns, attention, member]
  | finished => simp [State.view, attention, Attention.isFinished] at working

/-- A job that does not concern the supervisor leaves the round: the way is shorter by it. -/
theorem nearer_drop {s t : State τ ω σ κ} {job : Job} {rest : List Job}
    (round : s.round = job :: rest) (unconcerned : s.concerns job = false)
    (attention : t.attention = s.attention) (rest_ : t.round = rest) :
    Prod.Lex (· < ·) (Prod.Lex (· < ·) (· < ·)) t.distance s.distance := by
  have awaited : t.awaited = s.awaited := by simp [State.awaited, attention]
  have concerns : t.concerns = s.concerns := by
    funext job
    cases job <;> simp [State.concerns, attention]
  have far : t.far = s.far := by simp [State.far, round, rest_, concerns, unconcerned]
  unfold State.distance
  rw [awaited, far, round, rest_]
  exact .right _ (.right _ (Nat.lt_succ_self _))

/-- Nobody but the supervisor has a turn to take. -/
theorem Waiting.no_turn {s : State τ ω σ κ} (waiting : Waiting s) (i : Nat) :
    Job.turn (.worker i) ∉ s.jobs := by
  intro queued
  obtain ⟨w, found, ready⟩ := waiting.inTurn.worker_of_mem queued
  have member : w ∈ s.workers := List.mem_of_getElem? found
  exact waiting.ended _ (List.mem_map_of_mem member) (outcome_of_ready ready)

/-- A round begins as soon as there is a job, and takes over what was queued. -/
theorem exists_beginRound [Scalar τ] (s : State τ ω σ κ) {job : Job} (queued : job ∈ s.queue) :
    ∃ t, beginRound s = some t ∧ t.attention = s.attention ∧
      ∀ other ∈ s.queue, other ∈ t.round := by
  unfold beginRound
  dsimp only
  split
  next nothing =>
    rw [(List.append_eq_nil_iff.mp nothing).1] at queued
    cases queued
  next jobs _ =>
    exact ⟨_, rfl, rfl, fun other member => List.mem_append.mpr (.inl member)⟩

/-- A supervisor that hears of somebody it waits for waits for fewer workers. -/
theorem awaited_hear (s : State τ ω σ κ) (i : Nat) (crew : List Nat)
    (awaiting : s.attention = .awaiting crew) (member : i ∈ crew) :
    (s.hear i).awaited < s.awaited := by
  have before : s.awaited = crew.length := by simp [State.awaited, awaiting]
  have some_ : 0 < crew.length := List.length_pos_of_mem member
  have fewer := List.length_erase_of_mem member
  rw [before]
  unfold State.hear
  rw [awaiting]
  dsimp only
  rw [if_pos (by simpa using member)]
  split
  · exact some_
  next others =>
    change (crew.erase i).length < crew.length
    omega

/-- The alarm of a supervisor that waits for a crew ends the wait. -/
theorem awaited_ring (s : State τ ω σ κ) (crew : List Nat) (awaiting : s.attention = .awaiting crew)
    (some_ : crew ≠ []) : (s.ring .supervisor).awaited < s.awaited := by
  have before : s.awaited = crew.length := by simp [State.awaited, awaiting]
  rw [before]
  unfold State.ring
  dsimp only
  rw [awaiting]
  exact List.length_pos_iff.mpr some_

/-- To those who have ended an alarm means nothing. -/
theorem ring_of_ended (s : State τ ω σ κ)
    (ended : ∀ standing ∈ s.view.crew, standing.outcome ≠ none) (i : Nat) :
    s.ring (.worker i) = s := by
  unfold State.ring
  dsimp only
  split
  next w found =>
    rw [if_neg]
    intro resting
    obtain ⟨inside, rfl⟩ := List.getElem?_eq_some_iff.mp found
    apply ended _ (List.mem_map_of_mem (List.getElem_mem inside))
    simp [Worker.standing, Worker.outcome?, resting]
  · rfl

/-- Every step of a waiting pool brings the supervisor nearer to its turn. -/
theorem nearer_step [Scalar τ] (sys : System τ ω σ κ) (s : State τ ω σ κ) (waiting : Waiting s)
    (other : ∀ rest, s.round ≠ .turn .supervisor :: rest) :
    ∃ t, step sys s = some t ∧ t.view = s.view ∧
      Prod.Lex (· < ·) (Prod.Lex (· < ·) (· < ·)) t.distance s.distance := by
  have attentive := waiting.attentive
  unfold step
  rw [if_neg (by simp [attentive.calm])]
  cases round : s.round with
  | nil =>
    obtain ⟨job, member, concerns⟩ := waiting.concerned
    have queued : job ∈ s.queue := by simpa [State.jobs, round] using member
    obtain ⟨t, begun, attention, taken⟩ := exists_beginRound s queued
    dsimp only
    rw [if_neg (by simp [attentive.going])]
    refine ⟨t, begun, view_beginRound s t round begun, ?_⟩
    have awaited : t.awaited = s.awaited := by simp [State.awaited, attention]
    have same : t.concerns job = s.concerns job := by cases job <;> simp [State.concerns, attention]
    -- It waits for as many as before, but now what concerns it is in the round.
    have near : t.far = 0 := by
      rw [State.far, if_pos (List.any_eq_true.mpr ⟨job, taken job queued, same.trans concerns⟩)]
    have far : s.far = 1 := by simp [State.far, round]
    unfold State.distance
    rw [awaited, near, far]
    exact .right _ (.left _ _ Nat.zero_lt_one)
  | cons job rest =>
    have queued : job ∈ s.jobs := by simp [State.jobs, round]
    dsimp only
    refine ⟨_, rfl, ?_⟩
    have dropped (still : job ≠ .interrupt) := view_drop s job rest round still
    -- A job that does not concern the supervisor only makes the round shorter.
    have skipped (unconcerned : s.concerns job = false) :=
      nearer_drop (t := { s with round := rest }) round unconcerned rfl rfl
    cases job with
    | turn member =>
      cases member with
      | worker i => exact absurd queued (waiting.no_turn i)
      | supervisor => exact absurd round (other rest)
    | alarm member =>
      refine ⟨(State.view_ring _ member).trans (dropped (by simp)), ?_⟩
      cases member with
      | worker i =>
        have same : run sys { s with round := rest } (.alarm (.worker i)) =
            { s with round := rest } :=
          ring_of_ended { s with round := rest } waiting.ended i
        rw [same]
        exact skipped rfl
      | supervisor =>
        by_cases waited : ∃ crew, s.attention = .awaiting crew
        · obtain ⟨crew, attention⟩ := waited
          exact .left _ _ (awaited_ring { s with round := rest } crew attention
            (attentive.some_ crew attention))
        · have same : run sys { s with round := rest } (.alarm .supervisor) =
              { s with round := rest } := by
            cases attention : s.attention with
            | awaiting crew => exact absurd ⟨crew, attention⟩ waited
            | asleep => exact absurd attention waiting.awake
            | _ => simp [run, State.ring]
          rw [same]
          exact skipped rfl
    | news i =>
      refine ⟨(State.view_hear _ i).trans (dropped (by simp)), ?_⟩
      by_cases waited : ∃ crew, s.attention = .awaiting crew ∧ i ∈ crew
      · obtain ⟨crew, attention, member⟩ := waited
        exact .left _ _ (awaited_hear { s with round := rest } i crew attention member)
      · have unconcerned : s.concerns (.news i) = false ∧
            run sys { s with round := rest } (.news i) = { s with round := rest } := by
          cases attention : s.attention with
          | awaiting crew =>
            have outside : i ∉ crew := fun member => waited ⟨crew, attention, member⟩
            simp [State.concerns, run, State.hear, attention, outside]
          | _ => simp [State.concerns, run, State.hear, attention]
        rw [unconcerned.2]
        exact skipped unconcerned.1
    | interrupt =>
      -- Nobody has interrupted the pool.
      have some_ : 0 < s.jobs.count .interrupt := List.count_pos_iff.mpr queued
      have none_ : s.jobs.count .interrupt = 0 := waiting.undisturbed
      omega
    | close => exact absurd queued attentive.unclosed

/-- A pool whose supervisor has finished is not conducted any further. -/
theorem conduct_of_finished [Scalar τ] (sys : System τ ω σ κ) (budget : Nat) (s : State τ ω σ κ)
    (finished : s.attention = .finished) : conduct sys budget s = s := by
  cases budget with
  | zero => rfl
  | succ budget => rw [conduct, if_pos finished]

theorem conduct_add [Scalar τ] (sys : System τ ω σ κ) (first second : Nat) (s : State τ ω σ κ) :
    conduct sys (first + second) s = conduct sys second (conduct sys first s) := by
  -- Induction on the first budget, which is spent before anything of the second.
  induction first generalizing s with
  | zero => rw [Nat.zero_add, conduct]
  | succ first ih =>
    rw [Nat.succ_add, conduct, conduct]
    split
    next finished => exact (conduct_of_finished sys second s finished).symm
    next =>
      cases stepped : step sys s with
      | none =>
        cases second with
        | zero => rfl
        | succ second =>
          rw [conduct]
          simp [stepped]
      | some next => exact ih next

/-- A waiting pool comes to the turn of its supervisor, and nothing shows until then. -/
theorem comes_to_supervisor [Scalar τ] (sys : System τ ω σ κ) (s : State τ ω σ κ)
    (waiting : Waiting s) : ∃ k rest, Waiting (conduct sys k s) ∧
      (conduct sys k s).view = s.view ∧
      (conduct sys k s).round = .turn .supervisor :: rest := by
  -- By induction on the distance, which falls with every step.
  by_cases here : ∃ rest, s.round = .turn .supervisor :: rest
  · obtain ⟨rest, round⟩ := here
    exact ⟨0, rest, waiting, rfl, round⟩
  · have other (rest : List Job) : s.round ≠ .turn .supervisor :: rest :=
      fun round => here ⟨rest, round⟩
    obtain ⟨t, stepped, view, nearer⟩ := nearer_step sys s waiting other
    have nobody {i : Nat} {rest : List Job} (round : s.round = .turn (.worker i) :: rest) : False :=
      waiting.no_turn i (by simp [State.jobs, round])
    have attentive : Attentive t :=
      attentive_step sys s t waiting.attentive waiting.inTurn stepped other
        fun _ _ _ _ round => (nobody round).elim
    have awake : t.attention ≠ .asleep :=
      awake_step sys s t waiting.awake waiting.inTurn stepped other
        fun _ _ _ _ round => (nobody round).elim
    have waiting' : Waiting t :=
      ⟨attentive, inTurn_step sys s t waiting.inTurn stepped, by rw [view]; exact waiting.ended,
        by rw [view]; exact waiting.undisturbed, by rw [view]; exact waiting.working, awake⟩
    obtain ⟨k, rest, waits, later, round⟩ := comes_to_supervisor sys t waiting'
    have working : s.attention ≠ .finished := by
      intro finished
      have working := waiting.working
      simp [State.view, finished, Attention.isFinished] at working
    have next : conduct sys (k + 1) s = conduct sys k t := by
      rw [conduct, if_neg working, stepped]
    exact ⟨k + 1, rest, next ▸ waits, next ▸ later.trans view, next ▸ round⟩
termination_by s.distance
decreasing_by exact nearer

end Pool

end Volley
