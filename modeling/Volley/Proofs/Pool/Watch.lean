import Volley.Proofs.Pool.Clock

/-!
# Waits against the clock

A supervisor that waits for a crew at most so long is woken in time: either the last of the crew has
ended, or the time of the wait is over, and in no case is the clock beyond it. For the clock stands
still as long as a job is queued, and else it moves to the earliest timer, which is never later than
the one of the wait. While the supervisor waits nobody but it touches that timer.

## Main definitions

- `Pool.Watch`: the supervisor waits for a crew until a limit, or that wait has just ended.

## Main results

- `watch_runSupervisor`: an order to wait begins a wait.
- `watch_step`: a wait lasts until the supervisor takes its turn.
-/

namespace Volley

namespace Pool

open Scalar (Exact)

variable {τ ω σ κ : Type}

/-! ### Waits -/

/-- The supervisor waits for a crew until a limit, or that wait has just ended. -/
structure Watch [Scalar τ] (crew : List Nat) (limit : τ) (s : State τ ω σ κ) : Prop where
  early : s.now ≤ limit
  timers : ∀ timer ∈ s.timers.items, timer.live = true → timer.member = .supervisor →
    timer.deadline = limit
  rung : s.Rung → limit ≤ s.now
  attends : s.attention = .ready ∨ ∃ rest, s.attention = .awaiting rest
  /-- The wait has ended for one of two reasons. -/
  ready : s.attention = .ready → (∀ i ∈ crew, s.view.hasEnded i) ∨ limit ≤ s.now
  /-- The wait is still on; its timer is set or its alarm is to come, and the supervisor has heard
  of no others than those who have ended. -/
  awaiting : ∀ rest, s.attention = .awaiting rest → (s.Armed ∨ s.Rung) ∧
    ∀ i ∈ crew, i ∈ rest ∨ s.view.hasEnded i

namespace Watch

variable [Scalar τ] {crew : List Nat} {limit : τ} {s t : State τ ω σ κ}

/-- What happens apart from the supervisor leaves its wait as it is. -/
theorem apart (watch : Watch crew limit s) (tidy : Tidy s) (apart : Apart s t) :
    Watch crew limit t := by
  refine ⟨apart.now ▸ watch.early, ?_, ?_, ?_, ?_, ?_⟩
  · intro timer member live mine
    exact watch.timers timer ((apart.timers tidy.sound timer live mine).mp member) live mine
  · rw [apart.rung, apart.now]
    exact watch.rung
  · rw [apart.attention]
    exact watch.attends
  · rw [apart.attention, apart.now]
    intro ready
    exact (watch.ready ready).imp_left fun ended i member => apart.ended i (ended i member)
  · rw [apart.attention, apart.armed tidy.sound, apart.rung]
    intro rest awaiting
    obtain ⟨set, others⟩ := watch.awaiting rest awaiting
    exact ⟨set, fun i member => (others i member).imp_right (apart.ended i)⟩

/-- Another job than the alarm of the wait can be taken off the round. -/
theorem drop {job : Job} {rest : List Job} (watch : Watch crew limit s)
    (round : s.round = job :: rest) (other : job ≠ .alarm .supervisor) :
    Watch crew limit { s with round := rest } := by
  have rung : ({ s with round := rest } : State τ ω σ κ).Rung ↔ s.Rung := by
    simp [State.Rung, round, Ne.symm other]
  refine ⟨watch.early, watch.timers, ?_, watch.attends, watch.ready, ?_⟩
  · rw [rung]
    exact watch.rung
  · rw [rung]
    exact watch.awaiting

/-- A wait ends because the crew has ended, or because its time is over. -/
theorem rouse (tidy : Tidy s) (early : s.now ≤ limit)
    (reason : (∀ i ∈ crew, s.view.hasEnded i) ∨ limit ≤ s.now) : Watch crew limit s.rouse := by
  -- Whoever is roused has no timer and no alarm left that could be too late.
  obtain ⟨unarmed, unrung⟩ := tidy.rouse.rested rfl
  refine ⟨early, ?_, fun rung => absurd rung unrung, .inl rfl, fun _ => reason, nofun⟩
  intro timer member live mine
  exact absurd ⟨timer, member, live, mine⟩ unarmed

/-- The alarm of the supervisor goes off. -/
theorem ring {rest : List Job} (watch : Watch crew limit s) (tidy : Tidy s)
    (round : s.round = .alarm .supervisor :: rest) :
    Watch crew limit (({ s with round := rest } : State τ ω σ κ).ring .supervisor) := by
  have rung : s.Rung := by
    rw [State.Rung, round]
    exact .head _
  rcases watch.attends with ready | ⟨others, awaiting⟩
  · -- A supervisor that is ready has no alarm to come.
    have still : s.attention.waits = false := by
      rw [ready]
      rfl
    exact absurd rung (tidy.rested still).2
  · have roused : ({ s with round := rest } : State τ ω σ κ).ring .supervisor =
        ({ s with round := rest } : State τ ω σ κ).rouse := by
      simp [State.ring, awaiting]
    rw [roused]
    exact Watch.rouse (tidy.drop round) watch.early (.inr (watch.rung rung))

/-- The supervisor hears of somebody, who has ended. -/
theorem hear {i : Nat} (watch : Watch crew limit s) (tidy : Tidy s) (ended : s.view.hasEnded i) :
    Watch crew limit (s.hear i) := by
  unfold State.hear
  split
  next rest awaiting =>
    obtain ⟨set, others⟩ := watch.awaiting rest awaiting
    -- Whoever it does not wait for any more has ended.
    have others' (j : Nat) (member : j ∈ crew) : j ∈ rest.erase i ∨ s.view.hasEnded j := by
      rcases others j member with waited | ended
      · by_cases same : j = i
        · exact .inr (same ▸ ended)
        · exact .inl ((List.mem_erase_of_ne same).mpr waited)
      · exact .inr ended
    split
    · split
      next last =>
        rw [last] at others'
        refine Watch.rouse tidy watch.early (.inl fun j member => ?_)
        exact (others' j member).resolve_left List.not_mem_nil
      next =>
        refine ⟨watch.early, watch.timers, watch.rung, .inr ⟨_, rfl⟩, nofun, ?_⟩
        intro rest' same
        obtain rfl := Attention.awaiting.inj same
        exact ⟨set, others'⟩
    · exact watch
  · exact watch

/-- A wait that has ended although somebody of its crew is left has taken all its time. -/
theorem limit_le_of_pending (watch : Watch crew limit s) (ready : s.attention = .ready)
    (left : s.glance.pending crew ≠ []) : limit ≤ s.now := by
  obtain ⟨i, member⟩ := List.exists_mem_of_ne_nil _ left
  obtain ⟨inside, active⟩ := State.mem_pending.mp member
  exact (watch.ready ready).resolve_left fun ended => active (ended i inside)

variable [Exact τ]

/-- A round begins no later than the wait ends. -/
theorem beginRound (watch : Watch crew limit s) (tidy : Tidy s) (inTurn : InTurn s)
    (done : s.round = []) (begun : beginRound s = some t) : Watch crew limit t := by
  have view := view_beginRound s t done begun
  obtain ⟨due, timers, popped, rfl⟩ := beginRound_cases begun
  obtain ⟨-, due_, timers_⟩ := mem_due tidy.sound popped
  have early : nextTime s ≤ limit := by
    rcases watch.attends with ready | ⟨rest, awaiting⟩
    · -- The turn of the supervisor is queued, so the clock stands still.
      have queued := inTurn.mem_of_attention ready
      rw [State.jobs, done, List.nil_append] at queued
      rw [nextTime_of_queued queued]
      exact watch.early
    · -- Its timer is set, as its alarm is not to come.
      obtain ⟨timer, member, live, mine⟩ | rung := (watch.awaiting rest awaiting).1
      · have deadline := watch.timers timer member live mine
        have le := nextTime_le tidy.sound live member (deadline ▸ watch.early)
        rwa [deadline] at le
      · rw [State.Rung, done] at rung
        cases rung
  refine ⟨early, ?_, ?_, watch.attends, ?_, ?_⟩
  · intro timer member live mine
    exact watch.timers timer ((timers_ timer live).mpr (.inr member)) live mine
  · intro rung
    -- An alarm of this round is that of a timer that is due now, and so the limit has come.
    rcases List.mem_append.mp rung with queued | alarm
    · exact absurd queued (tidy.unrung _)
    · obtain ⟨timer, member, mine⟩ := List.mem_map.mp alarm
      obtain ⟨member, live⟩ := List.mem_filter.mp member
      rw [← watch.timers timer ((timers_ timer live).mpr (.inl member)) live (Job.alarm.inj mine)]
      exact due_ timer member
  · intro ready
    rw [view]
    exact (watch.ready ready).imp_right fun past => Exact.le_trans _ _ _ past (le_nextTime s)
  · intro rest awaiting
    rw [view]
    obtain ⟨set, others⟩ := watch.awaiting rest awaiting
    refine ⟨?_, others⟩
    rcases set with ⟨timer, member, live, mine⟩ | rung
    · -- The timer is still set, or it is due and rings in this round.
      rcases (timers_ timer live).mp member with due_now | later
      · exact .inr (List.mem_append.mpr (.inr (List.mem_map.mpr
          ⟨timer, List.mem_filter.mpr ⟨due_now, live⟩, congrArg Job.alarm mine⟩)))
      · exact .inl ⟨timer, later, live, mine⟩
    · rw [State.Rung, done] at rung
      cases rung

end Watch

section Steps

variable [Scalar τ] [Exact τ] (sys : System τ ω σ κ) {s t : State τ ω σ κ}

/-- A wait goes on until the supervisor takes its turn. -/
theorem watch_step {crew : List Nat} {limit : τ} (watch : Watch crew limit s) (tidy : Tidy s)
    (inTurn : InTurn s) (other : ∀ rest, s.round ≠ .turn .supervisor :: rest)
    (stepped : step sys s = some t) : Watch crew limit t := by
  rcases step_cases sys s t stepped with ⟨job, rest, round, rfl⟩ | ⟨round, -, begun⟩
  · have queued : job ∈ s.jobs := by simp [State.jobs, round]
    -- The only job that may not simply leave the round is the alarm, which ends the wait.
    have dropped (still : job ≠ .alarm .supervisor) := watch.drop round still
    have tidy' := tidy.drop round
    cases job with
    | turn member =>
      cases member with
      | worker i =>
        obtain ⟨w, found, ready⟩ := inTurn.worker_of_mem queued
        exact (dropped (by simp)).apart tidy'
          (apart_runWorker sys _ i w found (outcome_of_ready ready))
      | supervisor => exact absurd round (other rest)
    | alarm member =>
      cases member with
      | worker i =>
        exact (dropped (by simp)).apart tidy' (State.apart_ring_worker _ i)
      | supervisor => exact watch.ring tidy round
    | news i => exact (dropped (by simp)).hear tidy' (tidy.told i queued)
    | interrupt => exact (dropped (by simp)).apart tidy' (apart_runInterrupt sys)
    | close =>
      exact (dropped (by simp)).apart tidy'
        (State.apart_of_same rfl rfl rfl rfl rfl rfl fun _ => id)
  · exact watch.beginRound tidy inTurn round begun

/-- A supervisor that is ordered to wait for a crew begins to do so. -/
theorem watch_pauseSupervisor (tidy : Tidy s) (ready : s.attention = .ready) (crew : List Nat)
    {time : τ} (positive : 0 ≤ time) :
    Watch crew (s.now + time) (s.pauseSupervisor (.wait crew (some time))) := by
  have still : s.attention.waits = false := by
    rw [ready]
    rfl
  obtain ⟨unarmed, unrung⟩ := tidy.rested still
  have early : s.now ≤ s.now + time := Exact.le_add positive
  unfold State.pauseSupervisor
  dsimp only
  split
  next nobody =>
    -- A wait for nobody has ended already.
    have nobody : crew = [] := by simpa using nobody
    refine ⟨early, ?_, fun rung => absurd rung unrung, .inl ready, fun _ => .inl ?_, ?_⟩
    · intro timer member live mine
      exact absurd ⟨timer, member, live, mine⟩ unarmed
    · rw [nobody]
      exact nofun
    · intro rest awaiting
      rw [show (s.enqueue (.turn .supervisor)).attention = .ready from ready] at awaiting
      cases awaiting
  · have items := (Heap.Sound.push ranking_before tidy.sound
      { deadline := s.now + time, age := s.timersSet, member := .supervisor }).1
    refine ⟨early, ?_, fun rung => absurd rung unrung, .inr ⟨crew, rfl⟩, nofun, ?_⟩
    · intro timer member live mine
      -- The timer of the wait is the only one, since a supervisor that was ready had none.
      rcases List.mem_cons.mp (items.mem_iff.mp member) with rfl | before
      · rfl
      · exact absurd ⟨timer, before, live, mine⟩ unarmed
    · intro rest same
      obtain rfl := Attention.awaiting.inj same
      exact ⟨.inl ⟨_, items.mem_iff.mpr (.head _), rfl, rfl⟩, fun i => .inl⟩

/-- The wait that a command orders begins with the pause after it. -/
theorem watch_runSupervisor (tidy : Tidy s) (ready : s.attention = .ready) {crew : List Nat}
    {time : τ} (positive : 0 ≤ time)
    (order : (sys.supervise s.glance s.world s.supervisor).order = .wait crew (some time)) :
    Watch crew (s.now + time) (runSupervisor sys s) := by
  have apart := apart_commanded s (sys.supervise s.glance s.world s.supervisor)
  rw [runSupervisor_of_kept sys tidy.kept, order, ← apart.now]
  exact watch_pauseSupervisor (tidy.apart apart) (apart.attention.trans ready) crew positive

end Steps

end Pool

end Volley
