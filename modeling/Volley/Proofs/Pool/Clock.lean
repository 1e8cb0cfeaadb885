import Volley.Proofs.Heap.Ordered
import Volley.Proofs.Pool.News
import Volley.Proofs.Scalar.Exact

/-!
# The clock of a pool

The clock stands still as long as a job is queued, and else it moves to the earliest timer that is
live. So it never goes back, and it never goes beyond a timer that is set. The timers of the
supervisor are its own: a turn of a worker, a signal or a dismissal happens apart from them.

## Main definitions

- `Pool.State.Armed`, `Pool.State.Rung`: a timer is to wake the supervisor; its alarm is to come.
- `Pool.Tidy`: the timers and the jobs of a pool are in order.
- `Pool.Apart`: what happens without touching the timers of the supervisor.

## Main results

- `nextTime_le`: the clock does not go beyond a timer.
- `tidy_step`: a pool stays in order.
- `le_step`: the clock never goes back.
-/

namespace Volley

namespace Pool

open Scalar (Exact)

variable {τ ω σ κ : Type}

/-! ### Timers -/

section Timers

variable [Scalar τ] [Exact τ]

/-- An earlier deadline comes first; with one deadline, the older timer does. -/
theorem before_eq_true {a b : Timer τ} : a.before b = true ↔
    ¬ b.deadline ≤ a.deadline ∨ a.deadline ≤ b.deadline ∧ a.age < b.age := by
  simp [Timer.before, Exact.lt_iff]

theorem before_eq_false {a b : Timer τ} : a.before b = false ↔
    b.deadline ≤ a.deadline ∧ (a.deadline ≤ b.deadline → b.age ≤ a.age) := by
  rw [← Bool.not_eq_true, before_eq_true]
  constructor
  · intro not_before
    exact ⟨not_not.mp fun late => not_before (.inl late),
      fun level => Nat.le_of_not_lt fun older => not_before (.inr ⟨level, older⟩)⟩
  · rintro ⟨early, level⟩ (late | ⟨le, older⟩)
    · exact late early
    · exact absurd (level le) (Nat.not_le_of_lt older)

/-- Timers are ranked by deadline and age. -/
theorem ranking_before : Heap.Ranking (Timer.before : Timer τ → Timer τ → Bool) := by
  refine ⟨?_, ?_, ?_⟩
  · intro timer
    exact before_eq_false.mpr ⟨Exact.le_refl _, fun _ => Nat.le_refl _⟩
  · intro a b before
    rw [before_eq_true] at before
    rw [before_eq_false]
    rcases before with late | ⟨le, older⟩
    · exact ⟨(Exact.le_total _ _).resolve_right late, fun level => absurd level late⟩
    · exact ⟨le, fun _ => Nat.le_of_lt older⟩
  · intro a b c first second
    rw [before_eq_false] at first second ⊢
    refine ⟨Exact.le_trans _ _ _ first.1 second.1, ?_⟩
    -- Timers with one deadline between them have it too.
    intro level
    have ages := first.2 (Exact.le_trans _ _ _ second.1 level)
    have ages' := second.2 (Exact.le_trans _ _ _ level first.1)
    exact Nat.le_trans ages ages'

end Timers

namespace State

/-- A timer is to wake the supervisor. -/
def Armed (s : State τ ω σ κ) : Prop :=
  ∃ timer ∈ s.timers.items, timer.live = true ∧ timer.member = .supervisor

/-- The alarm of the supervisor is still to come in this round. -/
def Rung (s : State τ ω σ κ) : Prop :=
  .alarm .supervisor ∈ s.round

/-- Those who have ended, in the pool and in what is seen of it. -/
theorem hasEnded_iff {s : State τ ω σ κ} {i : Nat} :
    s.view.hasEnded i ↔ ∃ w, s.workers[i]? = some w ∧ w.outcome? ≠ none := by
  unfold View.hasEnded
  constructor
  · rintro ⟨standing, placed, ended⟩
    have found : (s.workers.map Worker.standing)[i]? = some standing := placed
    rw [List.getElem?_map, Option.map_eq_some_iff] at found
    obtain ⟨w, here, rfl⟩ := found
    exact ⟨w, here, ended⟩
  · rintro ⟨w, here, ended⟩
    exact ⟨w.standing, by simp [view, here], ended⟩

/-- Whoever has no outcome has not ended. -/
theorem not_hasEnded {s : State τ ω σ κ} {i : Nat} {w : Worker κ} (found : s.workers[i]? = some w)
    (active : w.outcome? = none) : ¬ s.view.hasEnded i := by
  intro ended
  obtain ⟨other, there, ended⟩ := hasEnded_iff.mp ended
  rw [found] at there
  cases there
  exact ended active

/-- Where a worker is replaced that has not ended, those who have ended are the same. -/
theorem hasEnded_of_set {s t : State τ ω σ κ} {i : Nat} {w w' : Worker κ}
    (found : s.workers[i]? = some w) (active : w.outcome? = none)
    (replaced : t.workers = s.workers.set i w') {j : Nat} (ended : s.view.hasEnded j) :
    t.view.hasEnded j := by
  have elsewhere : i ≠ j := fun same => not_hasEnded found active (same ▸ ended)
  obtain ⟨other, there, ended⟩ := hasEnded_iff.mp ended
  refine hasEnded_iff.mpr ⟨other, ?_, ended⟩
  rw [replaced, List.getElem?_set_ne elsewhere]
  exact there

/-- Whoever is pending has not ended. -/
theorem mem_pending {s : State τ ω σ κ} {crew : List Nat} {i : Nat} :
    i ∈ s.glance.pending crew ↔ i ∈ crew ∧ ¬ s.view.hasEnded i := by
  have outcome : (s.glance.outcome? i).isNone = true ↔ ¬ s.view.hasEnded i := by
    rw [hasEnded_iff]
    cases found : s.workers[i]? with
    | none => simp [glance, Glance.outcome?, found]
    | some w => simp [glance, Glance.outcome?, found]
  simp [Glance.pending, ← outcome]

/-- If nobody of a crew is pending, all of it have ended. -/
theorem ended_of_pending {s : State τ ω σ κ} {crew : List Nat} (nobody : s.glance.pending crew = [])
    {i : Nat} (member : i ∈ crew) : s.view.hasEnded i := by
  by_contra active
  have pending := mem_pending.mpr ⟨member, active⟩
  rw [nobody] at pending
  cases pending

end State

/-! ### Apart from the supervisor -/

/-- What happened took no time, brought back nobody who had ended, and left the timers and the
alarms of the supervisor as they were. -/
structure Apart [Scalar τ] (s t : State τ ω σ κ) : Prop where
  now : t.now = s.now
  attention : t.attention = s.attention
  givenUp : t.givenUp = s.givenUp
  sound : s.timers.Sound Timer.before → t.timers.Sound Timer.before
  timers : s.timers.Sound Timer.before → ∀ timer : Timer τ, timer.live = true →
    timer.member = .supervisor → (timer ∈ t.timers.items ↔ timer ∈ s.timers.items)
  rung : t.Rung ↔ s.Rung
  unrung : ∀ member, .alarm member ∈ t.queue → .alarm member ∈ s.queue
  news : ∀ i, .news i ∈ t.jobs → .news i ∈ s.jobs ∨ t.view.hasEnded i
  ended : ∀ i, s.view.hasEnded i → t.view.hasEnded i

section Apart

variable [Scalar τ]

theorem Apart.refl (s : State τ ω σ κ) : Apart s s :=
  ⟨rfl, rfl, rfl, id, fun _ _ _ _ => .rfl, .rfl, fun _ => id, fun _ => .inl, fun _ => id⟩

theorem Apart.trans {s t u : State τ ω σ κ} (first : Apart s t) (second : Apart t u) :
    Apart s u := by
  refine ⟨second.now.trans first.now, second.attention.trans first.attention,
    second.givenUp.trans first.givenUp, second.sound ∘ first.sound, ?_,
    second.rung.trans first.rung, fun member => first.unrung member ∘ second.unrung member, ?_,
    fun i => second.ended i ∘ first.ended i⟩
  · intro sound timer live member
    exact (second.timers (first.sound sound) timer live member).trans
      (first.timers sound timer live member)
  · -- News that came first are still there or have become known, and who ended first has ended.
    intro i queued
    rcases second.news i queued with before | ended
    · exact (first.news i before).imp_right (second.ended i)
    · exact .inr ended

/-- The supervisor is woken by the same timers as before. -/
theorem Apart.armed {s t : State τ ω σ κ} (apart : Apart s t)
    (sound : s.timers.Sound Timer.before) : t.Armed ↔ s.Armed := by
  unfold State.Armed
  constructor
  · rintro ⟨timer, member, live, mine⟩
    exact ⟨timer, (apart.timers sound timer live mine).mp member, live, mine⟩
  · rintro ⟨timer, member, live, mine⟩
    exact ⟨timer, (apart.timers sound timer live mine).mpr member, live, mine⟩

namespace State

/-- Nothing that the supervisor has to do with has changed. -/
theorem apart_of_same {s t : State τ ω σ κ} (now : t.now = s.now)
    (attention : t.attention = s.attention) (givenUp : t.givenUp = s.givenUp)
    (timers : t.timers = s.timers) (round : t.round = s.round) (queue : t.queue = s.queue)
    (ended : ∀ i, s.view.hasEnded i → t.view.hasEnded i) : Apart s t := by
  refine ⟨now, attention, givenUp, by rw [timers]; exact id, by rw [timers]; simp, ?_, ?_, ?_,
    ended⟩
  · rw [Rung, Rung, round]
  · rw [queue]
    exact fun _ => id
  · rw [jobs, jobs, round, queue]
    exact fun _ => .inl

/-- A job that is no alarm, and no false news, does not concern the waits of the supervisor. -/
theorem apart_enqueue (s : State τ ω σ κ) {job : Job} (quiet : ∀ member, job ≠ .alarm member)
    (told : ∀ i, job = .news i → s.view.hasEnded i) : Apart s (s.enqueue job) := by
  refine ⟨rfl, rfl, rfl, id, fun _ _ _ _ => .rfl, .rfl, ?_, ?_, fun _ => id⟩
  · intro member queued
    rcases List.mem_append.mp queued with before | now
    · exact before
    · exact absurd (List.mem_singleton.mp now).symm (quiet member)
  · intro i queued
    simp only [jobs, enqueue, List.mem_append, List.mem_singleton] at queued
    rcases queued with round | before | now
    · exact .inl (List.mem_append.mpr (.inl round))
    · exact .inl (List.mem_append.mpr (.inr before))
    · exact .inr (told i now.symm)

theorem apart_enqueue_turn (s : State τ ω σ κ) (member : Member) :
    Apart s (s.enqueue (.turn member)) :=
  s.apart_enqueue (by simp) (by simp)

theorem apart_proceed (s : State τ ω σ κ) (member : Member) : Apart s (s.proceed member) := by
  refine ⟨rfl, rfl, rfl, id, fun _ _ _ _ => .rfl, ?_, fun _ => id, ?_, fun _ => id⟩
  · simp [Rung, proceed]
  · intro i queued
    left
    simpa [jobs, proceed] using queued

/-- The timer of a worker is none of the supervisor's. -/
theorem apart_setTimer [Exact τ] (s : State τ ω σ κ) (time : τ) (i : Nat) :
    Apart s (s.setTimer time (.worker i)) := by
  refine ⟨rfl, rfl, rfl, ?_, ?_, .rfl, fun _ => id, fun _ => .inl, fun _ => id⟩
  · intro sound
    exact (Heap.Sound.push ranking_before sound _).2
  · intro sound timer live mine
    have items := (Heap.Sound.push ranking_before sound
      { deadline := s.now + time, age := s.timersSet, member := .worker i }).1
    -- What is added is a timer of the worker, so it is not the one that is asked about.
    refine (items.mem_iff (a := timer)).trans ?_
    rw [List.mem_cons]
    refine or_iff_right ?_
    rintro rfl
    cases mine

/-- Clearing timers keeps their order. -/
theorem sound_clearTimers {s : State τ ω σ κ} (member : Member)
    (sound : s.timers.Sound Timer.before) :
    (s.clearTimers member).timers.Sound Timer.before := by
  refine sound.map ?_
  intro a b
  split <;> split <;> rfl

/-- Only the timers and alarms of that member are cleared. -/
theorem apart_clearTimers (s : State τ ω σ κ) (i : Nat) :
    Apart s (s.clearTimers (.worker i)) := by
  refine ⟨rfl, rfl, rfl, sound_clearTimers _, ?_, ?_, fun _ => id, ?_, fun _ => id⟩
  · -- A live timer of the supervisor is not touched, and one that was touched is not live.
    intro _ timer live mine
    simp only [clearTimers, Heap.items_map, List.mem_map]
    constructor
    · rintro ⟨before, member, rfl⟩
      split at live
      · cases live
      next other => rwa [if_neg other]
    · intro member
      exact ⟨timer, member, by rw [if_neg (by simp [mine])]⟩
  · simp [Rung, clearTimers]
  · intro j queued
    left
    simpa [jobs, clearTimers] using queued

theorem apart_raiseStop (s : State τ ω σ κ) : Apart s s.raiseStop := by
  refine ⟨rfl, rfl, rfl, id, fun _ _ _ _ => .rfl, .rfl, ?_, ?_, ?_⟩
  · intro member queued
    simpa [raiseStop] using queued
  · intro i queued
    left
    simpa [raiseStop, jobs] using queued
  · -- What is seen of the workers stays as it is where the flag is raised.
    intro i ended
    unfold View.hasEnded
    rwa [view_raiseStop]

/-- A worker that has not ended takes another status. -/
theorem apart_mark (s : State τ ω σ κ) (i : Nat) (status : Status)
    (active : ¬ s.view.hasEnded i) : Apart s (s.mark i status) := by
  refine apart_of_same rfl rfl rfl rfl rfl rfl ?_
  rintro j ⟨standing, placed, ended⟩
  -- The one that is marked has not ended, so whoever has ended is another one.
  have other : i ≠ j := by
    rintro rfl
    exact active ⟨standing, placed, ended⟩
  refine ⟨standing, ?_, ended⟩
  rw [view_mark]
  simp only [List.getElem?_modify, if_neg other]
  simpa using placed

/-- Who is hired comes after all others and takes its first turn later. -/
theorem apart_hire (s : State τ ω σ κ) (state : κ) : Apart s (s.hire state) := by
  have joined : Apart s { s with workers := s.workers ++ [{ state }] } := by
    refine apart_of_same rfl rfl rfl rfl rfl rfl ?_
    intro i ended
    obtain ⟨w, found, ended⟩ := hasEnded_iff.mp ended
    obtain ⟨inside, -⟩ := List.getElem?_eq_some_iff.mp found
    exact hasEnded_iff.mpr ⟨w, (List.getElem?_append_left inside).trans found, ended⟩
  exact joined.trans (apart_enqueue_turn _ _)

/-- Who is dismissed has not ended before, and does not end by that. -/
theorem apart_dismiss (s : State τ ω σ κ) (i : Nat) : Apart s (s.dismiss i) := by
  have replaced (w w' : Worker κ) (found : s.workers[i]? = some w) (active : w.outcome? = none) :
      Apart s { s with workers := s.workers.set i w' } :=
    apart_of_same rfl rfl rfl rfl rfl rfl fun _ => hasEnded_of_set found active rfl
  unfold dismiss
  split
  · exact .refl s
  next w found =>
    split
    · exact .refl s
    next ready => exact replaced w _ found (by simp [Worker.outcome?, ready])
    all_goals
      next pausing =>
        exact (replaced w _ found (by simp [Worker.outcome?, pausing])).trans
          (apart_enqueue_turn _ _)

/-- An end is announced only where somebody has ended. -/
theorem apart_announce (s : State τ ω σ κ) (i : Nat) (ended : s.view.hasEnded i) :
    Apart s (s.announce i) := by
  unfold announce
  split
  · split
    · refine s.apart_enqueue (by simp) ?_
      intro j same
      cases same
      exact ended
    · exact .refl s
  · exact .refl s

/-- A worker that rests gets ready by its alarm; to others it means nothing. -/
theorem apart_ring_worker (s : State τ ω σ κ) (i : Nat) : Apart s (s.ring (.worker i)) := by
  unfold ring
  dsimp only
  split
  next w found =>
    split
    next resting =>
      have active : w.outcome? = none := by simp [Worker.outcome?, resting]
      exact (s.apart_mark i .ready (not_hasEnded found active)).trans (apart_enqueue_turn _ _)
    · exact .refl s
  · exact .refl s

/-- However a worker pauses, the supervisor has no part in it. -/
theorem apart_pauseWorker [Exact τ] (s : State τ ω σ κ) (i : Nat) (pause : Pause τ)
    (here : i < s.workers.length) (active : ¬ s.view.hasEnded i) :
    Apart s (s.pauseWorker i pause) := by
  have marked (status : Status) := s.apart_mark i status active
  unfold pauseWorker
  split
  next => exact s.apart_proceed _
  next time =>
    split
    · exact s.apart_enqueue_turn _
    · exact (marked .resting).trans (apart_setTimer _ time i)
  next =>
    split
    · exact s.apart_proceed _
    · exact marked .awaitingStop
  next => exact marked .resting
  next outcome =>
    -- Who has just ended is news to a supervisor that waits for it.
    have ended : (s.mark i (.ended outcome)).view.hasEnded i := by
      refine hasEnded_iff.mpr ⟨{ s.workers[i] with status := .ended outcome }, ?_, by
        simp [Worker.outcome?]⟩
      rw [mark_workers s i _ _ (List.getElem?_eq_getElem here), List.getElem?_set_self here]
    have announced := (marked (.ended outcome)).trans (apart_announce _ i ended)
    exact announced.trans (apart_of_same rfl rfl rfl rfl rfl rfl fun _ => id)

end State

variable [Exact τ]

/-- A turn of a worker happens apart from the supervisor. -/
theorem apart_runWorker (sys : System τ ω σ κ) (s : State τ ω σ κ) (i : Nat) (w : Worker κ)
    (found : s.workers[i]? = some w) (active : w.outcome? = none) :
    Apart s (runWorker sys s i) := by
  rw [runWorker_of_found sys found]
  generalize sys.work s.glance s.world w.state _ = turn
  have before : Apart s (turned s i w turn) := by
    refine related_turned Apart.refl Apart.trans s i w turn (s.apart_clearTimers i) ?_
      State.apart_raiseStop fun t => t.apart_enqueue (by simp) (by simp)
    intro t same
    exact State.apart_of_same rfl rfl rfl rfl rfl rfl fun _ =>
      State.hasEnded_of_set (same ▸ found) active rfl
  -- The worker is there and has not ended when it pauses.
  have placed : (turned s i w turn).view.crew[i]? = some (fresh turn.state) := by
    rw [view_turned s i w turn active]
    have inside : i < s.view.crew.length := by
      simpa [State.view] using (List.getElem?_eq_some_iff.mp found).1
    exact List.getElem?_set_self inside
  refine before.trans (State.apart_pauseWorker _ i turn.pause ?_ ?_)
  · have length := (List.getElem?_eq_some_iff.mp placed).1
    simpa [State.view] using length
  · rintro ⟨standing, there, ended⟩
    rw [placed] at there
    cases there
    exact ended rfl

end Apart

/-! ### Pools in order -/

/-- The supervisor waits for a timer, or for the end of workers. -/
def Attention.waits : Attention → Bool
  | .asleep | .awaiting _ => true
  | .ready | .finished => false

/-- The timers and the jobs of a pool are in order. -/
structure Tidy [Scalar τ] (s : State τ ω σ κ) : Prop where
  sound : s.timers.Sound Timer.before
  /-- Alarms come with the beginning of a round only. -/
  unrung : ∀ member, .alarm member ∉ s.queue
  told : ∀ i, .news i ∈ s.jobs → s.view.hasEnded i
  /-- A supervisor that does not wait has no timer. -/
  rested : s.attention.waits = false → ¬ s.Armed ∧ ¬ s.Rung
  kept : s.givenUp = false

/-- A new pool is in order. -/
theorem tidy_new [Scalar τ] (now : τ) (supervisor : σ) (world : ω) :
    Tidy ({ now, supervisor, world } : State τ ω σ κ) := by
  refine ⟨Heap.sound_empty _, ?_, ?_, ?_, rfl⟩
  · simp
  · simp [State.jobs]
  · intro _
    simp [State.Armed, State.Rung, Heap.items]

namespace Tidy

variable [Scalar τ] {s t : State τ ω σ κ}

/-- What happens apart from the supervisor leaves a pool in order. -/
theorem apart (tidy : Tidy s) (apart : Apart s t) : Tidy t := by
  refine ⟨apart.sound tidy.sound, fun member => tidy.unrung member ∘ apart.unrung member, ?_, ?_,
    apart.givenUp.trans tidy.kept⟩
  · intro i queued
    rcases apart.news i queued with before | ended
    · exact apart.ended i (tidy.told i before)
    · exact ended
  · -- Attention, timers and alarms are as before, so a supervisor that does not wait has still no
    -- timer.
    intro still
    rw [apart.attention] at still
    rw [apart.armed tidy.sound, apart.rung]
    exact tidy.rested still

/-- A job that is taken off a round leaves nothing behind. -/
theorem drop {job : Job} {rest : List Job} (tidy : Tidy s) (round : s.round = job :: rest) :
    Tidy { s with round := rest } := by
  refine ⟨tidy.sound, tidy.unrung, ?_, ?_, tidy.kept⟩
  · intro i queued
    apply tidy.told i
    rw [State.jobs, round]
    exact .tail _ queued
  · intro still
    obtain ⟨unarmed, unrung⟩ := tidy.rested still
    refine ⟨unarmed, fun rung => unrung ?_⟩
    rw [State.Rung, round]
    exact .tail _ rung

/-- Whoever rouses the supervisor clears its timers. -/
theorem rouse (tidy : Tidy s) : Tidy s.rouse := by
  refine ⟨State.sound_clearTimers _ tidy.sound, ?_, ?_, ?_, tidy.kept⟩
  · intro member queued
    rcases List.mem_append.mp queued with before | now
    · exact tidy.unrung member before
    · simp at now
  · intro i queued
    apply tidy.told i
    simpa [State.rouse, State.clearTimers, State.enqueue, State.jobs] using queued
  · intro _
    -- Of the timers that are left none is live and the supervisor's.
    refine ⟨?_, by simp [State.Rung, State.rouse, State.clearTimers, State.enqueue]⟩
    rintro ⟨timer, member, live, mine⟩
    simp only [State.rouse, State.clearTimers, State.enqueue, Heap.items_map, List.mem_map]
      at member
    obtain ⟨before, -, rfl⟩ := member
    split at live
    · cases live
    next other =>
      rw [if_neg other] at mine
      exact other mine

/-- An alarm of the supervisor is its last: it clears all others. -/
theorem ring (tidy : Tidy s) (member : Member) : Tidy (s.ring member) := by
  cases member with
  | worker i => exact tidy.apart (s.apart_ring_worker i)
  | supervisor =>
    unfold State.ring
    dsimp only
    split
    · exact tidy.rouse
    · exact tidy.rouse
    · exact tidy
    · exact tidy

/-- News may end a wait of the supervisor, or they shorten it. -/
theorem hear (tidy : Tidy s) (i : Nat) : Tidy (s.hear i) := by
  unfold State.hear
  split
  · split
    · split
      · exact tidy.rouse
      · exact ⟨tidy.sound, tidy.unrung, tidy.told, nofun, tidy.kept⟩
    · exact tidy
  · exact tidy

/-- Of those who have ended before the wait there are news at once. -/
theorem await (tidy : Tidy s) (crew : List Nat) : Tidy (s.await crew) := by
  refine ⟨tidy.sound, ?_, ?_, nofun, tidy.kept⟩
  · intro member queued
    rcases List.mem_append.mp queued with before | now
    · exact tidy.unrung member before
    · simp at now
  · intro i queued
    simp only [State.await, State.jobs, List.mem_append, List.mem_map, List.mem_filter] at queued
    rcases queued with round | before | ⟨j, ⟨member, ended⟩, same⟩
    · exact tidy.told i (List.mem_append.mpr (.inl round))
    · exact tidy.told i (List.mem_append.mpr (.inr before))
    · obtain rfl := Job.news.inj same
      have gone : j ∉ s.glance.pending crew := by simpa using ended
      rw [State.mem_pending, not_and_not_right] at gone
      exact gone member

/-- A supervisor that waits may have timers. -/
theorem setTimer [Exact τ] (tidy : Tidy s) (waits : s.attention.waits = true) (time : τ)
    (member : Member) : Tidy (s.setTimer time member) := by
  refine ⟨(Heap.Sound.push ranking_before tidy.sound _).2, tidy.unrung, tidy.told, ?_, tidy.kept⟩
  intro still
  rw [show (s.setTimer time member).attention = s.attention from rfl, waits] at still
  cases still

/-- A supervisor that has taken its turn waits from here on, gets ready again or is finished. -/
theorem pauseSupervisor [Exact τ] (tidy : Tidy s) (ready : s.attention = .ready)
    (order : Order τ) : Tidy (s.pauseSupervisor order) := by
  unfold State.pauseSupervisor
  split
  next => exact tidy.apart (s.apart_proceed _)
  next time =>
    split
    · exact tidy.apart (s.apart_enqueue_turn _)
    · -- It waits before it has a timer, as the order demands.
      have asleep : Tidy { s with attention := .asleep } :=
        ⟨tidy.sound, tidy.unrung, tidy.told, nofun, tidy.kept⟩
      exact asleep.setTimer rfl time .supervisor
  next crew limit =>
    split
    · exact tidy.apart (s.apart_enqueue_turn _)
    · split
      · exact tidy.await crew
      next time => exact (tidy.await crew).setTimer rfl time .supervisor
  next =>
    have finished : Tidy { s with attention := .finished } := by
      refine ⟨tidy.sound, tidy.unrung, tidy.told, fun _ => tidy.rested ?_, tidy.kept⟩
      rw [ready]
      rfl
    exact finished.apart (State.apart_enqueue _ (by simp) (by simp))

end Tidy

/-! ### The clock -/

section Steps

variable [Scalar τ] [Exact τ] (sys : System τ ω σ κ) {s t : State τ ω σ κ}

omit [Exact τ] in
/-- All that the supervisor does in its turn before it pauses happens apart from its waits. -/
theorem apart_commanded (s : State τ ω σ κ) (command : Command τ ω σ κ) :
    Apart s (commanded s command) :=
  related_commanded Apart.refl Apart.trans s command
    (State.apart_of_same rfl rfl rfl rfl rfl rfl fun _ => id) State.apart_hire
    State.apart_raiseStop State.apart_dismiss

omit [Exact τ] in
/-- To pause takes no time. -/
theorem now_pauseSupervisor (s : State τ ω σ κ) (order : Order τ) :
    (s.pauseSupervisor order).now = s.now := by
  unfold State.pauseSupervisor
  split
  · rfl
  · split <;> rfl
  · split
    · rfl
    · split <;> rfl
  · rfl

omit [Exact τ] in
/-- A signal happens apart from the supervisor. -/
theorem apart_runInterrupt : Apart s (runInterrupt sys s) := by
  have signalled : Apart s { s with world := sys.interrupted s.glance s.world } :=
    State.apart_of_same rfl rfl rfl rfl rfl rfl fun _ => id
  exact signalled.trans (State.apart_raiseStop _)

omit [Scalar τ] [Exact τ] in
/-- Alarms take no time. -/
theorem now_ring (s : State τ ω σ κ) (member : Member) : (s.ring member).now = s.now := by
  unfold State.ring
  split
  · split
    · split <;> rfl
    · rfl
  · split <;> rfl

omit [Scalar τ] [Exact τ] in
theorem now_hear (s : State τ ω σ κ) (i : Nat) : (s.hear i).now = s.now := by
  unfold State.hear
  split
  · split
    · split <;> rfl
    · rfl
  · rfl

/-- The jobs of a round take no time and leave the pool in order. -/
theorem tidy_run {job : Job} {rest : List Job} (tidy : Tidy s) (inTurn : InTurn s)
    (round : s.round = job :: rest) : Tidy (run sys { s with round := rest } job) ∧
      (run sys { s with round := rest } job).now = s.now := by
  have queued : job ∈ s.jobs := by simp [State.jobs, round]
  have dropped := tidy.drop round
  have still {t : State τ ω σ κ} (apart : Apart { s with round := rest } t) :
      Tidy t ∧ t.now = s.now :=
    ⟨dropped.apart apart, apart.now⟩
  -- Only the supervisor's own turn, its alarm and news concern its waits.
  cases job with
  | turn member =>
    cases member with
    | worker i =>
      obtain ⟨w, found, ready⟩ := inTurn.worker_of_mem queued
      exact still (apart_runWorker sys _ i w found (outcome_of_ready ready))
    | supervisor =>
      have ready := inTurn.attention_of_mem queued
      have apart := apart_commanded { s with round := rest }
        (sys.supervise s.glance s.world s.supervisor)
      have ran : run sys { s with round := rest } (.turn .supervisor) = _ :=
        runSupervisor_of_kept sys (s := { s with round := rest }) tidy.kept
      rw [ran]
      exact ⟨(dropped.apart apart).pauseSupervisor (apart.attention.trans ready) _,
        (now_pauseSupervisor _ _).trans apart.now⟩
  | alarm member => exact ⟨dropped.ring member, now_ring _ member⟩
  | news i => exact ⟨dropped.hear i, now_hear _ i⟩
  | interrupt => exact still (apart_runInterrupt sys)
  | close => exact still (State.apart_of_same rfl rfl rfl rfl rfl rfl fun _ => id)

omit [Exact τ] in
/-- A round begins with the jobs that were queued and the alarms that are due by then. -/
theorem beginRound_cases (begun : beginRound s = some t) :
    ∃ due timers, (liveTimers s).popWhile Timer.before
        (fun timer => !decide (nextTime s < timer.deadline)) = (due, timers) ∧
      t = { s with
        now := nextTime s
        round := s.queue ++ (due.filter Timer.live).map fun timer => .alarm timer.member
        queue := []
        timers } := by
  unfold beginRound at begun
  dsimp only at begun
  split at begun
  · cases begun
  next jobs _ =>
    refine ⟨_, _, rfl, ?_⟩
    rw [Option.some.injEq] at begun
    exact begun.symm

/-- The timers that are still live are in order. -/
theorem sound_liveTimers (sound : s.timers.Sound Timer.before) :
    (liveTimers s).Sound Timer.before :=
  (Heap.Sound.popWhile ranking_before _ sound).2.1

/-- Only timers that are not live any more are dropped from the top. -/
theorem mem_liveTimers (sound : s.timers.Sound Timer.before) {timer : Timer τ}
    (live : timer.live = true) :
    timer ∈ (liveTimers s).items ↔ timer ∈ s.timers.items := by
  obtain ⟨items, -, dead⟩ := Heap.Sound.popWhile ranking_before (fun timer => !timer.live) sound
  rw [← items.mem_iff, List.mem_append]
  refine (or_iff_right ?_).symm
  intro dropped
  simpa [live] using dead timer dropped

/-- The clock never goes back. -/
theorem le_nextTime (s : State τ ω σ κ) : s.now ≤ nextTime s := by
  unfold nextTime
  split
  next timer _ top =>
    split
    next later => exact Exact.le_of_lt later
    · exact Exact.le_refl _
  · exact Exact.le_refl _

omit [Exact τ] in
/-- The clock stands still while a job is queued. -/
theorem nextTime_of_queued {job : Job} (queued : job ∈ s.queue) : nextTime s = s.now := by
  unfold nextTime
  split
  next empty _ =>
    rw [empty] at queued
    cases queued
  · rfl

/-- The clock does not go beyond a timer that is live. -/
theorem nextTime_le (sound : s.timers.Sound Timer.before) {timer : Timer τ}
    (live : timer.live = true) (member : timer ∈ s.timers.items)
    (early : s.now ≤ timer.deadline) : nextTime s ≤ timer.deadline := by
  -- The clock moves to the top of the live timers, and none of them is before that one.
  unfold nextTime
  split
  next first _ top =>
    split
    · have behind := (sound_liveTimers sound).ordered.not_before_top ranking_before top
        ((mem_liveTimers sound live).mpr member)
      exact (before_eq_false.mp behind).1
    · exact early
  · exact early

/-- What is taken out of the timers at the beginning of a round is due. -/
theorem mem_due {due : List (Timer τ)} {timers : Heap (Timer τ)}
    (sound : s.timers.Sound Timer.before)
    (popped : (liveTimers s).popWhile Timer.before
      (fun timer => !decide (nextTime s < timer.deadline)) = (due, timers)) :
    timers.Sound Timer.before ∧ (∀ timer ∈ due, timer.deadline ≤ nextTime s) ∧
      ∀ timer, timer.live = true →
        (timer ∈ s.timers.items ↔ timer ∈ due ∨ timer ∈ timers.items) := by
  obtain ⟨items, sound', late⟩ := Heap.Sound.popWhile ranking_before
    (fun timer : Timer τ => !decide (nextTime s < timer.deadline)) (sound_liveTimers sound)
  rw [popped] at items sound' late
  refine ⟨sound', ?_, ?_⟩
  · intro timer member
    have late := late timer member
    simpa [Exact.lt_iff] using late
  · intro timer live
    rw [← mem_liveTimers sound live, ← items.mem_iff, List.mem_append]

/-- The beginning of a round leaves a pool in order. -/
theorem tidy_beginRound (tidy : Tidy s) (done : s.round = []) (begun : beginRound s = some t) :
    Tidy t := by
  have view := view_beginRound s t done begun
  obtain ⟨due, timers, popped, rfl⟩ := beginRound_cases begun
  obtain ⟨sound, -, timers_⟩ := mem_due tidy.sound popped
  refine ⟨sound, nofun, ?_, ?_, tidy.kept⟩
  · intro i queued
    rw [view]
    apply tidy.told i
    simpa [State.jobs, done] using queued
  · intro still
    obtain ⟨unarmed, -⟩ := tidy.rested still
    constructor
    · rintro ⟨timer, member, live, mine⟩
      exact unarmed ⟨timer, (timers_ timer live).mpr (.inr member), live, mine⟩
    · -- An alarm of the round was queued before, or it is that of a timer that was still set.
      intro rung
      rcases List.mem_append.mp rung with queued | alarm
      · exact tidy.unrung _ queued
      · obtain ⟨timer, member, mine⟩ := List.mem_map.mp alarm
        obtain ⟨due_, live⟩ := List.mem_filter.mp member
        exact unarmed ⟨timer, (timers_ timer live).mpr (.inl due_), live, Job.alarm.inj mine⟩

/-- Every step leaves a pool in order. -/
theorem tidy_step (tidy : Tidy s) (inTurn : InTurn s) (stepped : step sys s = some t) :
    Tidy t := by
  rcases step_cases sys s t stepped with ⟨job, rest, round, rfl⟩ | ⟨round, -, begun⟩
  · exact (tidy_run sys tidy inTurn round).1
  · exact tidy_beginRound tidy round begun

/-- No step takes the clock back. -/
theorem le_step (tidy : Tidy s) (inTurn : InTurn s) (stepped : step sys s = some t) :
    s.now ≤ t.now := by
  rcases step_cases sys s t stepped with ⟨job, rest, round, rfl⟩ | ⟨round, -, begun⟩
  · rw [(tidy_run sys tidy inTurn round).2]
    exact Exact.le_refl _
  · obtain ⟨due, timers, -, rfl⟩ := beginRound_cases begun
    exact le_nextTime s

end Steps

end Pool

end Volley
