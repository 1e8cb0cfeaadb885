import Volley.Proofs.Pool.Trail

/-!
# A waiting pool makes progress

While a supervisor waits for a crew until a limit, a pool cannot come to a standstill before
somebody takes a turn: its clock moves on to the next timer at the latest, as the one of the wait is
set. And it cannot be busy with its own queue for ever. An alarm or news may bring up one turn, but
they are used up by it, and a round of alarms uses up their timers. Once the whole crew has ended
the news of it are queued, and the clock stands still until the supervisor takes its turn.

## Main definitions

- `Pool.Guarded`: a pool in order whose supervisor waits for a crew until a limit.
- `Pool.State.effort`: what is left to do for a pool before somebody takes a turn.

## Main results

- `Guarded.exists_step`: a guarded pool does not stand still.
- `ahead_step`: what is not a turn leaves less to do.
- `comes_to_turn`: somebody takes a turn next.
-/

namespace Volley

namespace Pool

open Scalar (Exact)

variable {τ ω σ κ : Type}

/-- A pool in order whose supervisor waits for a crew until a limit, or has just done so. -/
structure Guarded [Scalar τ] (crew : List Nat) (limit : τ) (s : State τ ω σ κ) : Prop where
  orderly : Orderly s
  watch : Watch crew limit s

/-- Everybody who was ever hired has ended. -/
def View.Deserted (v : View ω σ κ) : Prop :=
  ∀ i, i < v.crew.length → v.hasEnded i

/-! ### What is left to do -/

/-- A turn is what is waited for here. An alarm or news weigh more than the turn that they may bring
up. -/
def Job.weight : Job → Nat
  | turn _ => 1
  | alarm _ => 2
  | news _ => 2
  | interrupt => 0
  | close => 1

/-- What a list of jobs weighs. -/
def weigh : List Job → Nat
  | [] => 0
  | job :: rest => job.weight + weigh rest

@[simp] theorem weigh_nil : weigh [] = 0 := rfl

@[simp] theorem weigh_cons (job : Job) (rest : List Job) :
    weigh (job :: rest) = job.weight + weigh rest := rfl

@[simp] theorem weigh_append (jobs jobs' : List Job) :
    weigh (jobs ++ jobs') = weigh jobs + weigh jobs' := by
  induction jobs with
  | nil => simp
  | cons job rest ih => simp [ih, Nat.add_assoc]

/-- Fewer jobs do not weigh more. -/
theorem weigh_filter_le (p : Job → Bool) (jobs : List Job) :
    weigh (jobs.filter p) ≤ weigh jobs := by
  induction jobs with
  | nil => exact Nat.le_refl _
  | cons job rest ih =>
    rw [List.filter_cons]
    split
    · rw [weigh_cons, weigh_cons]
      omega
    · rw [weigh_cons]
      omega

/-- An alarm for each timer. -/
theorem weigh_alarms (timers : List (Timer τ)) :
    weigh (timers.map fun timer => .alarm timer.member) = 2 * timers.length := by
  induction timers with
  | nil => rfl
  | cons timer rest ih =>
    rw [List.map_cons, weigh_cons, ih, List.length_cons, Job.weight]
    omega

namespace State

/-- What is queued, and the alarms of the timers that are set. -/
def effort (s : State τ ω σ κ) : Nat :=
  weigh s.round + weigh s.queue + 3 * s.timers.size

/-- An interrupt may bring up any number of turns, but never an interrupt. Where a round is to
begin, that is left to do as well. -/
def ahead (s : State τ ω σ κ) : Nat × Nat :=
  (s.view.interrupts, 2 * s.effort + if s.round = [] then 1 else 0)

/-- A turn that is queued is one thing more to do. -/
theorem effort_enqueue_turn (s : State τ ω σ κ) (member : Member) :
    (s.enqueue (.turn member)).effort = s.effort + 1 := by
  simp only [effort, enqueue, weigh_append, weigh_cons, weigh_nil, Job.weight]
  omega

/-- To rouse the supervisor brings up its turn and clears what it does not need any more. -/
theorem effort_rouse_le (s : State τ ω σ κ) : s.rouse.effort ≤ s.effort + 1 := by
  have fewer := weigh_filter_le (fun job => decide (job ≠ .alarm .supervisor)) s.round
  have timers : (s.clearTimers .supervisor).timers.size = s.timers.size := by
    rw [Heap.size_eq, Heap.size_eq, clearTimers, Heap.items_map, List.length_map]
  rw [rouse, effort_enqueue_turn]
  simp only [effort, timers]
  simp only [clearTimers]
  omega

/-- An alarm brings up one turn at most. -/
theorem effort_ring_le (s : State τ ω σ κ) (member : Member) :
    (s.ring member).effort ≤ s.effort + 1 := by
  have roused := s.effort_rouse_le
  have same : s.effort ≤ s.effort + 1 := Nat.le_succ _
  unfold ring
  split
  · split
    · split
      · exact Nat.le_of_eq (effort_enqueue_turn _ _)
      · exact same
    · exact same
  · split
    · exact roused
    · exact roused
    · exact same
    · exact same

/-- News bring up one turn at most. -/
theorem effort_hear_le (s : State τ ω σ κ) (i : Nat) : (s.hear i).effort ≤ s.effort + 1 := by
  have same : s.effort ≤ s.effort + 1 := Nat.le_succ _
  unfold hear
  split
  · split
    · split
      · exact s.effort_rouse_le
      · exact same
    · exact same
  · exact same

/-- A job that is taken off a round leaves less to do by its own weight. -/
theorem effort_drop {s : State τ ω σ κ} {job : Job} {rest : List Job}
    (round : s.round = job :: rest) :
    s.effort = ({ s with round := rest } : State τ ω σ κ).effort + job.weight := by
  simp only [effort, round, weigh_cons]
  omega

end State

section Steps

variable [Scalar τ] [Exact τ] {sys : System τ ω σ κ} {crew : List Nat} {limit : τ}
  {s t : State τ ω σ κ}

/-- The alarms with which a round begins weigh less than their timers did. -/
theorem effort_beginRound_le (sound : s.timers.Sound Timer.before) (done : s.round = [])
    (begun : beginRound s = some t) : t.effort ≤ s.effort ∧ t.round ≠ [] := by
  have some_ : t.round ≠ [] := by
    unfold beginRound at begun
    dsimp only at begun
    split at begun
    · cases begun
    next jobs nonempty =>
      obtain rfl := Option.some.inj begun
      exact nonempty
  refine ⟨?_, some_⟩
  obtain ⟨due, timers, popped, rfl⟩ := beginRound_cases begun
  -- The timers are counted twice, before those that are dead have been dropped and after those
  -- that are due have been taken.
  obtain ⟨dropped, -, -⟩ := Heap.Sound.popWhile ranking_before (fun timer => !timer.live) sound
  obtain ⟨taken, -, -⟩ := Heap.Sound.popWhile ranking_before
    (fun timer : Timer τ => !decide (nextTime s < timer.deadline)) (sound_liveTimers sound)
  rw [popped] at taken
  have live := dropped.length_eq
  have rung := taken.length_eq
  rw [List.length_append] at live rung
  have alarms : (due.filter Timer.live).length ≤ due.length := List.length_filter_le _ _
  simp only [State.effort, done, weigh_append, weigh_nil, weigh_alarms, Heap.size_eq]
  simp only [liveTimers] at rung
  omega

/-- What is not a turn leaves less to do. -/
theorem ahead_step (tidy : Tidy s) (idle : ∀ member rest, s.round ≠ .turn member :: rest)
    (stepped : step sys s = some t) : Prod.Lex (· < ·) (· < ·) t.ahead s.ahead := by
  -- As long as no interrupt is taken, less effort is less to do, whether the round is over or not.
  have less {u : State τ ω σ κ} (view : u.view = s.view) (effort : u.effort < s.effort) :
      Prod.Lex (· < ·) (· < ·) u.ahead s.ahead := by
    rw [State.ahead, State.ahead, view]
    refine .right _ ?_
    split <;> split <;> omega
  rcases step_cases sys s t stepped with ⟨job, rest, round, rfl⟩ | ⟨round, -, begun⟩
  · have dropped (still : job ≠ .interrupt) := view_drop s job rest round still
    have effort := State.effort_drop round
    cases job with
    | turn member => exact absurd round (idle member rest)
    | alarm member =>
      have rung := State.effort_ring_le { s with round := rest } member
      exact less ((State.view_ring _ member).trans (dropped (by simp))) (by
        -- The alarm weighs two, and what it brings up is one.
        rw [Job.weight] at effort
        exact Nat.lt_of_le_of_lt rung (by omega))
    | news i =>
      have heard := State.effort_hear_le { s with round := rest } i
      exact less ((State.view_hear _ i).trans (dropped (by simp))) (by
        rw [Job.weight] at effort
        exact Nat.lt_of_le_of_lt heard (by omega))
    | interrupt =>
      -- The interrupt is used up, and it does not matter how many turns come up by it.
      refine .left _ _ ?_
      have view := view_runInterrupt sys { s with round := rest }
      have later : (run sys { s with round := rest } .interrupt).view.interrupts =
          ({ s with round := rest } : State τ ω σ κ).jobs.count .interrupt :=
        congrArg (fun v => v.interrupts) view
      have now : s.view.interrupts =
          ({ s with round := rest } : State τ ω σ κ).jobs.count .interrupt + 1 := by
        simp [State.view, State.jobs, round]
      omega
    | close =>
      refine less (dropped (by simp)) ?_
      rw [Job.weight] at effort
      exact Nat.lt_of_lt_of_eq (Nat.lt_succ_self _) effort.symm
  · obtain ⟨effort, some_⟩ := effort_beginRound_le tidy.sound round begun
    -- The effort need not be less, but now there is a round.
    rw [State.ahead, State.ahead, view_beginRound s t round begun, if_neg some_, if_pos round]
    exact .right _ (by omega)

/-! ### A waiting pool goes on -/

/-- A round begins at the latest when a timer is due. -/
theorem exists_beginRound_of_timer (sound : s.timers.Sound Timer.before) {timer : Timer τ}
    (set : timer ∈ s.timers.items) (live : timer.live = true) : ∃ t, beginRound s = some t := by
  have set := (mem_liveTimers sound live).mpr set
  have sound' := sound_liveTimers sound
  -- The first timer that is live is due when the round begins.
  obtain ⟨first, top⟩ : ∃ first, (liveTimers s).top? = some first := by
    cases heap : liveTimers s with
    | empty => simp [heap, Heap.items] at set
    | node item left right => exact ⟨item, rfl⟩
  have awake : first.live = true := by
    have kept := sound.not_of_top_popWhile ranking_before top
    simpa using kept
  -- With a job in the queue a round begins at once; else the clock moves to the first timer.
  by_cases quiet : s.queue = []
  · have due : first.deadline ≤ nextTime s := by
      unfold nextTime
      rw [quiet, top]
      dsimp only
      split
      · exact Exact.le_refl _
      next past => rwa [Exact.lt_iff, not_not] at past
    have taken := sound'.mem_popWhile_of_top
      (p := fun timer => !decide (nextTime s < timer.deadline)) top (by simp [Exact.lt_iff, due])
    unfold beginRound
    dsimp only
    split
    next nothing =>
      have nobody := (List.append_eq_nil_iff.mp nothing).2
      have alarm := List.mem_map_of_mem (f := fun timer : Timer τ => Job.alarm timer.member)
        (List.mem_filter.mpr ⟨taken, awake⟩)
      rw [nobody] at alarm
      cases alarm
    · exact ⟨_, rfl⟩
  · obtain ⟨job, queued⟩ := List.exists_mem_of_ne_nil _ quiet
    obtain ⟨t, begun, -⟩ := exists_beginRound s queued
    exact ⟨t, begun⟩

namespace Guarded

omit [Exact τ] in
/-- A supervisor that waits has not finished. -/
theorem working (guarded : Guarded crew limit s) : s.attention ≠ .finished := by
  rcases guarded.watch.attends with ready | ⟨rest, awaiting⟩
  · simp [ready]
  · simp [awaiting]

variable (sys) in
/-- A guarded pool does not stand still. -/
theorem exists_step (guarded : Guarded crew limit s) (calm : s.demand = none) :
    ∃ t, step sys s = some t := by
  obtain ⟨⟨inTurn, tidy, attentive⟩, watch⟩ := guarded
  cases round : s.round with
  | cons job rest => exact ⟨_, step_of_round sys s calm round⟩
  | nil =>
    have begins : ∃ t, beginRound s = some t := by
      rcases watch.attends with ready | ⟨rest, awaiting⟩
      · have queued := inTurn.mem_of_attention ready
        rw [State.jobs, round, List.nil_append] at queued
        obtain ⟨t, begun, -⟩ := exists_beginRound s queued
        exact ⟨t, begun⟩
      · rcases (watch.awaiting rest awaiting).1 with ⟨timer, set, live, -⟩ | rung
        · exact exists_beginRound_of_timer tidy.sound set live
        · -- The round is over, so no alarm is left in it.
          rw [State.Rung, round] at rung
          cases rung
    obtain ⟨t, begun⟩ := begins
    refine ⟨t, ?_⟩
    unfold step
    rw [if_neg (by simp [calm]), round]
    dsimp only
    rw [if_neg (by simp [(attentive calm).going]), begun]

/-- A pool stays guarded until the supervisor takes its turn. -/
theorem elsewhere (guarded : Guarded crew limit s)
    (other : ∀ rest, s.round ≠ .turn .supervisor :: rest) (stepped : step sys s = some t) :
    Guarded crew limit t :=
  ⟨guarded.orderly.elsewhere other stepped,
    watch_step sys guarded.watch guarded.orderly.tidy guarded.orderly.inTurn other stepped⟩

/-- When everybody has ended the clock stands still: the supervisor is to take its turn, or to hear
the news. -/
theorem now_of_deserted (guarded : Guarded crew limit s) (deserted : s.view.Deserted)
    (stepped : step sys s = some t) : t.now = s.now := by
  obtain ⟨⟨inTurn, tidy, attentive⟩, watch⟩ := guarded
  have attentive := attentive (calm_of_step stepped)
  rcases step_cases sys s t stepped with ⟨job, rest, round, rfl⟩ | ⟨round, -, begun⟩
  · exact (tidy_run sys tidy inTurn round).2
  · -- At the beginning of a round there is a job in the queue, so the clock has nowhere to go.
    obtain ⟨job, queued⟩ : ∃ job, job ∈ s.jobs := by
      rcases watch.attends with ready | ⟨rest, awaiting⟩
      · exact ⟨_, inTurn.mem_of_attention ready⟩
      · obtain ⟨i, waited⟩ := List.exists_mem_of_ne_nil _ (attentive.some_ rest awaiting)
        exact ⟨_, attentive.news rest awaiting i waited
          (deserted i (attentive.known rest awaiting i waited))⟩
    rw [State.jobs, round, List.nil_append] at queued
    obtain ⟨due, timers, -, rfl⟩ := beginRound_cases begun
    exact nextTime_of_queued queued

end Guarded

omit [Scalar τ] [Exact τ] in
/-- Apart from turns a step tells nothing. -/
theorem events_of_idle (idle : ∀ member rest, s.round ≠ .turn member :: rest) :
    events sys s = [] := by
  unfold events
  split
  next i rest round => exact absurd round (idle (.worker i) rest)
  next rest round => exact absurd round (idle .supervisor rest)
  · rfl

/-- Somebody takes a turn next in a guarded pool that is not halted. If everybody has ended, it
takes no time until then. -/
theorem comes_to_turn (sys : System τ ω σ κ) (s : State τ ω σ κ) (guarded : Guarded crew limit s)
    (calm : s.demand = none) :
    ∃ t member rest, Trail sys s [] t ∧ Guarded crew limit t ∧ t.demand = none ∧
      t.round = .turn member :: rest ∧ Elsewhere s t ∧ (s.view.Deserted → t.now = s.now) := by
  -- By induction on what is left to do before.
  by_cases here : ∃ member rest, s.round = .turn member :: rest
  · obtain ⟨member, rest, round⟩ := here
    exact ⟨s, member, rest, .refl, guarded, calm, round,
      elsewhere_of_view rfl (Exact.le_refl _), fun _ => rfl⟩
  · have idle (member : Member) (rest : List Job) : s.round ≠ .turn member :: rest :=
      fun round => here ⟨member, rest, round⟩
    obtain ⟨u, stepped⟩ := guarded.exists_step sys calm
    have orderly := guarded.orderly
    have nearer := ahead_step orderly.tidy idle stepped
    have attentive : Attentive u :=
      attentive_step sys s u (orderly.attentive calm) orderly.inTurn stepped (idle .supervisor)
        fun i rest _ _ round => absurd round (idle (.worker i) rest)
    have elsewhere := elsewhere_step orderly.tidy orderly.inTurn (idle .supervisor) stepped
    obtain ⟨t, member, rest, trail, guarded', calm', round, elsewhere', still⟩ :=
      comes_to_turn sys u (guarded.elsewhere (idle .supervisor) stepped) attentive.calm
    have first := Trail.single guarded.working stepped
    rw [events_of_idle idle] at first
    refine ⟨t, member, rest, first.trans trail, guarded', calm', round,
      elsewhere.trans elsewhere', ?_⟩
    intro deserted
    have now := guarded.now_of_deserted deserted stepped
    have deserted' : u.view.Deserted := fun i inside =>
      elsewhere.ended i (deserted i (inside.trans_eq elsewhere.size))
    exact (still deserted').trans now
termination_by s.ahead
decreasing_by exact nearer

end Steps

end Pool

end Volley
