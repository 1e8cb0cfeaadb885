import Mathlib.Data.List.Count
import Mathlib.Data.List.Nodup
import Mathlib.Logic.Relation
import Volley.Proofs.Pool.View

/-!
# Every schedule

A pool moves when someone takes a turn. Which of them it is that has not ended, and how the clock,
the queues and the timers stand, is left open here: a move may change the schedule at will. The
steps of a pool are moves, because everyone who is ready has one turn in the queue and nobody else
has any. So what holds after all moves holds after all steps.

## Main definitions

- `Pool.Moves`: a move under any schedule.
- `Pool.InTurn`: the turns in the queue are those of the ready.

## Main results

- `moves_step`, `moves_exhaust`, `moves_conduct`: a pool in turn moves when it steps.
-/

namespace Volley

namespace Pool

variable {τ ω σ κ : Type}

/-- Someone takes a turn, or the schedule changes. -/
inductive Moves [Scalar τ] (sys : System τ ω σ κ) : State τ ω σ κ → State τ ω σ κ → Prop
  | reschedule {s t : State τ ω σ κ} (same : t.view = s.view) : Moves sys s t
  | worker {s : State τ ω σ κ} (i : Nat) (w : Worker κ) (found : s.workers[i]? = some w)
      (active : w.outcome? = none) : Moves sys s (runWorker sys s i)
  | supervisor {s : State τ ω σ κ} (working : s.view.finished = false) :
      Moves sys s (runSupervisor sys s)
  /-- A queued interrupt is taken out of the queue and does its work. -/
  | interrupt {s t : State τ ω σ κ}
      (taken : s.view = { t.view with interrupts := t.view.interrupts + 1 }) :
      Moves sys s (runInterrupt sys t)

def Status.isReady : Status → Bool
  | .ready => true
  | _ => false

namespace State

/-- The turns of a member that are queued. -/
def turns (s : State τ ω σ κ) (member : Member) : Nat :=
  s.jobs.count (.turn member)

/-- There is a worker at this place, and it is ready. -/
def readyAt (workers : List (Worker κ)) (i : Nat) : Bool :=
  (workers[i]?).any fun w => w.status.isReady

def isReady (s : State τ ω σ κ) : Member → Bool
  | .worker i => readyAt s.workers i
  | .supervisor => match s.attention with
    | .ready => true
    | _ => false

end State

/-- Everyone who is ready has one turn to come, and nobody else has any. -/
def InTurn (s : State τ ω σ κ) : Prop :=
  ∀ member, s.turns member = (s.isReady member).toNat

/-- Between two pools as many turns came up as members became ready. -/
def Even (s t : State τ ω σ κ) : Prop :=
  ∀ member, t.turns member + (s.isReady member).toNat =
    s.turns member + (t.isReady member).toNat

theorem Even.refl (s : State τ ω σ κ) : Even s s :=
  fun _ => rfl

theorem Even.trans {s t u : State τ ω σ κ} (first : Even s t) (second : Even t u) : Even s u := by
  intro member
  have one := first member
  have two := second member
  omega

/-- What is even keeps the turns with those who are ready. -/
theorem Even.inTurn {s t : State τ ω σ κ} (even : Even s t) (inTurn : InTurn s) : InTurn t := by
  intro member
  have balance := even member
  have before := inTurn member
  omega

/-- In a new pool there is a turn for the supervisor, which is ready. -/
theorem inTurn_new (now : τ) (supervisor : σ) (world : ω) :
    InTurn ({ now, supervisor, world } : State τ ω σ κ) := by
  intro member
  cases member <;> rfl

namespace State

theorem turns_enqueue (s : State τ ω σ κ) (job : Job) (member : Member) :
    (s.enqueue job).turns member = s.turns member + if job = .turn member then 1 else 0 := by
  simp [turns, count_jobs, enqueue, List.count_singleton, Nat.add_assoc]

theorem turns_proceed (s : State τ ω σ κ) (other member : Member) :
    (s.proceed other).turns member = s.turns member + if other = member then 1 else 0 := by
  simp [turns, count_jobs, proceed, List.count_cons]
  omega

theorem even_enqueue (s : State τ ω σ κ) (job : Job) (still : ∀ member, job ≠ .turn member) :
    Even s (s.enqueue job) := by
  intro member
  rw [turns_enqueue, if_neg (still member)]
  rfl

theorem turns_clearTimers (s : State τ ω σ κ) (other member : Member) :
    (s.clearTimers other).turns member = s.turns member := by
  simp [turns, count_jobs, clearTimers, List.count_filter]

/-- A supervisor that was not ready and is roused gets the turn it needs. -/
theorem even_rouse (s : State τ ω σ κ) (idle : s.isReady .supervisor = false) :
    Even s s.rouse := by
  intro member
  -- The supervisor becomes ready, and the one turn that comes up is its own.
  rw [rouse, turns_enqueue]
  have cleared := s.turns_clearTimers .supervisor member
  cases member with
  | worker i =>
    rw [if_neg (by simp)]
    exact congrArg (· + _) cleared
  | supervisor =>
    rw [if_pos rfl, idle]
    exact congrArg (· + 1) cleared

/-- News are no turns, and the last of them rouse the supervisor. -/
theorem even_hear (s : State τ ω σ κ) (i : Nat) : Even s (s.hear i) := by
  unfold hear
  split
  next crew awaiting =>
    split
    · split
      · exact s.even_rouse (by simp [isReady, awaiting])
      · -- It still waits for the others, so it has no turn, before and after.
        intro member
        cases member with
        | worker i => rfl
        | supervisor => simp [turns, jobs, isReady, awaiting]
    · exact .refl s
  · exact .refl s

theorem even_announce (s : State τ ω σ κ) (i : Nat) : Even s (s.announce i) := by
  unfold announce
  split
  · split
    · exact s.even_enqueue _ (by simp)
    · exact .refl s
  · exact .refl s

/-- Nothing but one worker changed, who now has one turn more if he became ready. -/
theorem even_replace {s t : State τ ω σ κ} {i : Nat} {w w' : Worker κ}
    (found : s.workers[i]? = some w) (replaced : t.workers = s.workers.set i w')
    (attention : t.attention = s.attention)
    (turns : ∀ member, t.turns member + (if member = .worker i then w.status.isReady.toNat else 0) =
      s.turns member + if member = .worker i then w'.status.isReady.toNat else 0) : Even s t := by
  intro member
  have balance := turns member
  cases member with
  | supervisor => simpa [isReady, attention] using balance
  | worker j =>
    obtain ⟨inside, -⟩ := List.getElem?_eq_some_iff.mp found
    by_cases here : j = i
    · subst here
      have before : s.isReady (.worker j) = w.status.isReady := by simp [isReady, readyAt, found]
      have after : t.isReady (.worker j) = w'.status.isReady := by
        simp [isReady, readyAt, replaced, inside]
      simpa [before, after] using balance
    · have elsewhere : i ≠ j := fun same => here same.symm
      simpa [isReady, readyAt, replaced, here, elsewhere] using balance

/-- Who wakes up gets the turn that comes with it. -/
theorem even_wake {s t : State τ ω σ κ} {i : Nat} {w w' : Worker κ}
    (found : s.workers[i]? = some w) (asleep : w.status.isReady = false)
    (awake : w'.status.isReady = true) (replaced : t.workers = s.workers.set i w')
    (attention : t.attention = s.attention) (jobs : t.jobs = s.jobs) :
    Even s (t.enqueue (.turn (.worker i))) := by
  refine even_replace found replaced attention ?_
  intro member
  have same : t.turns member = s.turns member := by simp [turns, jobs]
  rw [turns_enqueue, same, asleep, awake]
  by_cases here : member = .worker i
  · simp [here]
  · have elsewhere : ¬ .worker i = member := fun eq => here eq.symm
    simp [here, elsewhere]

/-- To mark a worker is to replace it by itself with another status. -/
theorem mark_workers (s : State τ ω σ κ) (i : Nat) (status : Status) (w : Worker κ)
    (found : s.workers[i]? = some w) :
    (s.mark i status).workers = s.workers.set i { w with status } := by
  apply List.ext_getElem?
  intro j
  simp only [mark, List.getElem?_modify]
  by_cases here : i = j
  · subst here
    obtain ⟨inside, -⟩ := List.getElem?_eq_some_iff.mp found
    rw [found, List.getElem?_set_self inside]
    simp
  · simp [here]

/-- A worker has as many turns among these as it is listed. -/
theorem count_turns_map (ids : List Nat) (i : Nat) :
    (ids.map fun j => Job.turn (.worker j)).count (.turn (.worker i)) = ids.count i :=
  List.count_map_of_injective ids (fun j => Job.turn (.worker j))
    (fun j k same => by simpa using same) i

/-- The stop flag makes those ready that waited for it, and each of them gets a turn. -/
theorem even_raiseStop (s : State τ ω σ κ) : Even s s.raiseStop := by
  intro member
  simp only [turns, count_jobs, raiseStop, List.count_append]
  cases member with
  | supervisor =>
    rw [count_map_of_ne (by simp)]
    rfl
  | worker i =>
    -- No worker is listed twice among those that waited for the flag, so it gets one turn just if
    -- it becomes ready.
    rw [count_turns_map, (List.nodup_range.filter _).count]
    simp only [isReady, readyAt, List.mem_filter, List.mem_range, List.getElem?_map]
    cases found : s.workers[i]? with
    | none => simp
    | some w =>
      obtain ⟨inside, -⟩ := List.getElem?_eq_some_iff.mp found
      cases standing : w.status <;> simp [inside, standing, Status.isReady, Nat.add_assoc]

/-- By its alarm a member gets ready and gets its turn, if it waited for it. -/
theorem even_ring (s : State τ ω σ κ) (member : Member) : Even s (s.ring member) := by
  unfold ring
  split
  next i =>
    split
    next w found =>
      split
      next resting =>
        exact even_wake found (by rw [resting]; rfl) rfl (s.mark_workers i .ready w found) rfl rfl
      · exact .refl s
    · exact .refl s
  next =>
    split
    next asleep => exact s.even_rouse (by simp [isReady, asleep])
    next awaiting => exact s.even_rouse (by simp [isReady, awaiting])
    · exact .refl s
    · exact .refl s

/-- Whoever waits gets a turn to learn of its dismissal; whoever is ready has one already. -/
theorem even_dismiss (s : State τ ω σ κ) (i : Nat) : Even s (s.dismiss i) := by
  unfold dismiss
  split
  · exact .refl s
  next w found =>
    split
    · exact .refl s
    next ready => exact even_replace found rfl rfl fun other => by simp [ready, turns, jobs]
    all_goals
      next pausing =>
        exact even_wake found (by rw [pausing]; rfl) rfl rfl rfl rfl

theorem attention_dismiss (s : State τ ω σ κ) (i : Nat) :
    (s.dismiss i).attention = s.attention := by
  unfold dismiss
  split
  · rfl
  · split <;> rfl

/-- The same for the supervisor. -/
theorem even_dismissSupervisor (s : State τ ω σ κ) : Even s s.dismissSupervisor := by
  unfold dismissSupervisor
  split
  · exact .refl s
  next ready => exact fun member => by cases member <;> rfl
  all_goals
    next waiting => exact even_rouse _ (by simp [isReady, waiting])

/-- Who is hired is ready, and gets its first turn. -/
theorem even_hire (s : State τ ω σ κ) (state : κ) : Even s (s.hire state) := by
  intro member
  rw [hire, turns_enqueue]
  cases member with
  | supervisor => rfl
  | worker i =>
    simp only [turns, jobs, isReady, readyAt, enqueue, Job.turn.injEq, Member.worker.injEq]
    by_cases here : s.workers.length = i
    · subst here
      simp [Status.isReady]
    · have same (newcomer : Worker κ) : (s.workers ++ [newcomer])[i]? = s.workers[i]? := by
        by_cases inside : i < s.workers.length
        · -- There is nobody at any other place from here on, before and after.
          exact List.getElem?_append_left inside
        · have beyond : s.workers.length < i := by omega
          rw [List.getElem?_eq_none (by simp; omega), List.getElem?_eq_none (by omega)]
      rw [if_neg here, same]
      rfl

/-- What changes a pool evenly does so beside a turn that is under way. -/
theorem even_proceed {s t : State τ ω σ κ} (even : Even s t) (running : Member) :
    Even (s.proceed running) (t.proceed running) := by
  intro member
  have balance := even member
  rw [turns_proceed, turns_proceed]
  simp only [State.proceed, isReady] at balance ⊢
  omega

/-- To queue a turn behind the others is as good as to proceed at once. -/
theorem even_proceed_enqueue (s : State τ ω σ κ) (member : Member) :
    Even (s.proceed member) (s.enqueue (.turn member)) := by
  intro other
  rw [turns_proceed, turns_enqueue]
  simp only [Job.turn.injEq]
  rfl

/-- A worker whose turn is over and that gets no other one is not ready any more. -/
theorem even_proceed_mark (s : State τ ω σ κ) (i : Nat) (w : Worker κ) (status : Status)
    (found : s.workers[i]? = some w) (ready : w.status.isReady = true)
    (still : status.isReady = false) : Even (s.proceed (.worker i)) (s.mark i status) := by
  refine even_replace found (s.mark_workers i status w found) rfl ?_
  intro member
  rw [turns_proceed, ready]
  simp only [still, eq_comm (a := member)]
  split <;> rfl

/-- A worker whose turn is over gets another one or is not ready any more. -/
theorem even_pauseWorker [Scalar τ] (s : State τ ω σ κ) (i : Nat) (w : Worker κ) (pause : Pause τ)
    (found : s.workers[i]? = some w) (ready : w.status.isReady = true) :
    Even (s.proceed (.worker i)) (s.pauseWorker i pause) := by
  have marked (status : Status) (still : status.isReady = false) :=
    s.even_proceed_mark i w status found ready still
  unfold pauseWorker
  split
  next => exact .refl _
  next time =>
    split
    · exact s.even_proceed_enqueue _
    · exact (marked .resting rfl).trans fun _ => rfl
  next =>
    split
    · exact .refl _
    · exact marked .awaitingStop rfl
  next => exact marked .resting rfl
  next outcome => exact (marked (.ended outcome) rfl).trans (even_announce _ i)

/-- A supervisor that takes its turn and waits loses just that turn. -/
theorem even_settle {s t : State τ ω σ κ} (ready : s.isReady .supervisor = true)
    (still : t.isReady .supervisor = false) (workers : t.workers = s.workers)
    (turns : ∀ member, t.turns member = s.turns member) : Even (s.proceed .supervisor) t := by
  intro member
  rw [turns_proceed, turns]
  cases member with
  | worker i => simp [isReady, State.proceed, workers]
  | supervisor =>
    have before : (s.proceed .supervisor).isReady .supervisor = true := ready
    simp [before, still]

/-- A supervisor whose turn is over gets another one or is not ready any more. -/
theorem even_pauseSupervisor [Scalar τ] (s : State τ ω σ κ) (order : Order τ)
    (ready : s.isReady .supervisor = true) :
    Even (s.proceed .supervisor) (s.pauseSupervisor order) := by
  -- The news that are queued for a wait are no turns.
  have awaited (crew : List Nat) (t : State τ ω σ κ) (even : Even (s.await crew) t) :
      Even (s.proceed .supervisor) t := by
    refine (even_settle (t := s.await crew) ready rfl rfl ?_).trans even
    intro member
    have news (ids : List Nat) : (ids.map Job.news).count (.turn member) = 0 :=
      count_map_of_ne nofun ids
    simp [turns, count_jobs, await, news]
  unfold pauseSupervisor
  split
  next => exact .refl _
  next time =>
    split
    · exact s.even_proceed_enqueue _
    · exact even_settle ready rfl rfl fun _ => rfl
  next crew limit =>
    split
    · exact s.even_proceed_enqueue _
    · split
      · exact awaited crew _ (.refl _)
      · exact awaited crew _ fun _ => rfl
  next =>
    refine even_settle ready rfl rfl ?_
    intro member
    rw [turns_enqueue, if_neg (by simp)]
    rfl

end State

/-! ### The steps of a pool are moves -/

section Steps

variable [Scalar τ] (sys : System τ ω σ κ)

omit [Scalar τ] in
/-- A worker that is ready does not wait for the flag. -/
theorem raiseStop_found (s : State τ ω σ κ) (i : Nat) (w : Worker κ)
    (found : s.workers[i]? = some w) (ready : w.status.isReady = true) :
    s.raiseStop.workers[i]? = some w := by
  have other : w.status ≠ .awaitingStop := by
    intro waiting
    rw [waiting] at ready
    cases ready
  simp [State.raiseStop, found, other]

omit [Scalar τ] in
/-- A worker stays ready in its turn until it pauses. -/
theorem turned_found {s : State τ ω σ κ} {i : Nat} {w : Worker κ} (turn : Turn τ ω κ)
    (found : s.workers[i]? = some w) (ready : w.status.isReady = true) :
    (turned s i w turn).workers[i]? =
      some { w with state := turn.state, dismissed := false } := by
  obtain ⟨inside, -⟩ := List.getElem?_eq_some_iff.mp found
  have moved : (s.workers.set i { w with state := turn.state, dismissed := false })[i]? =
      some { w with state := turn.state, dismissed := false } :=
    List.getElem?_set_self inside
  have stopped (t : State τ ω σ κ)
      (there : t.workers[i]? = some { w with state := turn.state, dismissed := false }) :
      (if turn.stop then t.raiseStop else t).workers[i]? =
        some { w with state := turn.state, dismissed := false } := by
    split
    · exact raiseStop_found t i _ there ready
    · exact there
  unfold turned
  dsimp only
  split <;> exact stopped _ moved

/-- A turn of a worker changes the pool evenly, when it is counted as still to come before. -/
theorem even_runWorker (s : State τ ω σ κ) (i : Nat) (w : Worker κ)
    (found : s.workers[i]? = some w) (ready : w.status.isReady = true) :
    Even (s.proceed (.worker i)) (runWorker sys s i) := by
  rw [runWorker_of_found sys found]
  generalize sys.work s.glance s.world w.state _ = turn
  -- The turn that is run has left the queue already. It is counted as still to come until the
  -- worker pauses; so what it does before is even, as it stays ready all the time.
  have even : Even s (turned s i w turn) := by
    refine related_turned Even.refl Even.trans s i w turn ?_ ?_ State.even_raiseStop
      fun t => t.even_enqueue _ (by simp)
    · -- The timers that are cleared are no turns, and neither is what the worker has become.
      intro member
      exact congrArg (· + _) (s.turns_clearTimers _ _)
    · intro t same
      exact State.even_replace (w := w) (by rw [same, found]) rfl rfl fun member => rfl
  exact (State.even_proceed even _).trans
    (State.even_pauseWorker _ i _ turn.pause (turned_found turn found ready) ready)

omit [Scalar τ] in
theorem attention_commanded (s : State τ ω σ κ) (command : Command τ ω σ κ) :
    (commanded s command).attention = s.attention :=
  related_commanded (R := fun t u => u.attention = t.attention) (fun _ => rfl)
    (fun first second => second.trans first) s command rfl (fun _ _ => rfl) (fun _ => rfl)
    State.attention_dismiss

/-- A turn of the supervisor changes the pool evenly in the same sense. -/
theorem even_runSupervisor (s : State τ ω σ κ) (ready : s.isReady .supervisor = true) :
    Even (s.proceed .supervisor) (runSupervisor sys s) := by
  cases kept : s.givenUp with
  | true =>
    rw [runSupervisor, if_pos kept]
    exact State.even_settle ready rfl rfl fun _ => rfl
  | false =>
    rw [runSupervisor_of_kept sys kept]
    -- As for a worker, the turn is counted as still to come.
    have even := related_commanded Even.refl Even.trans s
      (sys.supervise s.glance s.world s.supervisor) (fun _ => rfl) State.even_hire
      State.even_raiseStop State.even_dismiss
    refine (State.even_proceed even _).trans (State.even_pauseSupervisor _ _ ?_)
    simpa [State.isReady, attention_commanded] using ready

omit [Scalar τ] in
/-- Whoever has a turn to come is ready. -/
theorem InTurn.ready_of_mem {s : State τ ω σ κ} (inTurn : InTurn s) {member : Member}
    (queued : .turn member ∈ s.jobs) : s.isReady member = true := by
  have one := inTurn member
  have some_ : 0 < s.turns member := List.count_pos_iff.mpr queued
  cases ready : s.isReady member with
  | true => rfl
  | false => simp [ready] at one; omega

omit [Scalar τ] in
/-- In a pool in turn, the supervisor that has a turn to come is ready. -/
theorem InTurn.attention_of_mem {s : State τ ω σ κ} (inTurn : InTurn s)
    (queued : .turn .supervisor ∈ s.jobs) : s.attention = .ready := by
  have ready := inTurn.ready_of_mem queued
  cases attention : s.attention <;> simp_all [State.isReady]

omit [Scalar τ] in
/-- In a pool in turn, a supervisor that is ready has a turn to come. -/
theorem InTurn.mem_of_attention {s : State τ ω σ κ} (inTurn : InTurn s)
    (ready : s.attention = .ready) : .turn .supervisor ∈ s.jobs := by
  have one : s.turns .supervisor = 1 := by simp [inTurn .supervisor, State.isReady, ready]
  apply List.count_pos_iff.mp
  rw [← State.turns, one]
  exact Nat.one_pos

omit [Scalar τ] in
/-- In a pool in turn, the worker that has a turn to come is there and ready. -/
theorem InTurn.worker_of_mem {s : State τ ω σ κ} (inTurn : InTurn s) {i : Nat}
    (queued : .turn (.worker i) ∈ s.jobs) :
    ∃ w, s.workers[i]? = some w ∧ w.status.isReady = true := by
  have ready := inTurn.ready_of_mem queued
  simpa [State.isReady, State.readyAt, Option.any_eq_true] using ready

omit [Scalar τ] in
/-- Whoever is ready has not ended. -/
theorem outcome_of_ready {w : Worker κ} (ready : w.status.isReady = true) : w.outcome? = none := by
  cases status : w.status <;> simp_all [Status.isReady, Worker.outcome?]

/-- Every job of a round changes the pool evenly. -/
theorem even_run (s : State τ ω σ κ) (job : Job) (rest : List Job) (round : s.round = job :: rest)
    (inTurn : InTurn s) : Even s (run sys { s with round := rest } job) := by
  have queued : job ∈ s.jobs := by simp [State.jobs, round]
  have dropped (still : ∀ member, job ≠ .turn member) : Even s { s with round := rest } := by
    intro member
    have same : s.turns member = ({ s with round := rest } : State τ ω σ κ).turns member := by
      simp [State.turns, State.count_jobs, round, still member]
    rw [same]
    rfl
  -- A turn that is taken out of the round and proceeds is as if it was still there.
  have running (member : Member) (turn : job = .turn member) :
      s = ({ s with round := rest } : State τ ω σ κ).proceed member := by
    simp [State.proceed, ← turn, ← round]
  cases job with
  | turn member =>
    cases member with
    | worker i =>
      obtain ⟨w, found, ready⟩ := inTurn.worker_of_mem queued
      have even := even_runWorker sys { s with round := rest } i w found ready
      rwa [← running _ rfl] at even
    | supervisor =>
      have ready := inTurn.ready_of_mem queued
      have even := even_runSupervisor sys { s with round := rest } ready
      rwa [← running _ rfl] at even
  | alarm member => exact (dropped (by simp)).trans (State.even_ring _ member)
  | news i => exact (dropped (by simp)).trans (State.even_hear _ i)
  | interrupt =>
    -- A signal changes the world only, and then raises the flag.
    have interrupted : Even s
        { s with round := rest, world := sys.interrupted s.glance s.world } :=
      (dropped (by simp)).trans fun _ => rfl
    exact interrupted.trans (State.even_raiseStop _)
  | close => exact (dropped (by simp)).trans fun _ => rfl

/-- A round takes over the turns that were queued, and alarms are no turns. -/
theorem even_beginRound (s t : State τ ω σ κ) (done : s.round = [])
    (begun : beginRound s = some t) : Even s t := by
  have alarms (member : Member) (timers : List (Timer τ)) :
      (timers.map fun timer => Job.alarm timer.member).count (.turn member) = 0 :=
    count_map_of_ne nofun timers
  unfold beginRound at begun
  dsimp only at begun
  split at begun
  · cases begun
  next jobs _ =>
    simp only [Option.some.injEq] at begun
    subst begun
    intro member
    simp only [State.turns, State.count_jobs, done, List.count_append, alarms]
    simp [State.isReady]

/-- As long as the pool is not halted, the next job of the round is run. -/
theorem step_of_round (s : State τ ω σ κ) {job : Job} {rest : List Job} (calm : s.demand = none)
    (round : s.round = job :: rest) : step sys s = some (run sys { s with round := rest } job) := by
  unfold step
  rw [if_neg (by simp [calm]), round]

/-- A supervisor whose command hires and dismisses nobody only pauses. -/
theorem runSupervisor_of_plain {s : State τ ω σ κ} (kept : s.givenUp = false) {world : ω}
    {state : σ} {order : Order τ}
    (supervises : sys.supervise s.glance s.world s.supervisor = { world, state, order }) :
    runSupervisor sys s = { s with world, supervisor := state }.pauseSupervisor order := by
  rw [runSupervisor_of_kept sys kept, supervises]
  rfl

/-- What a step is: the next job of the round, or the beginning of a round. -/
theorem step_cases (s t : State τ ω σ κ) (stepped : step sys s = some t) :
    (∃ job rest, s.round = job :: rest ∧ t = run sys { s with round := rest } job) ∨
      s.round = [] ∧ s.closing = false ∧ beginRound s = some t := by
  unfold step at stepped
  split at stepped
  · cases stepped
  · split at stepped
    next job rest round =>
      simp only [Option.some.injEq] at stepped
      exact .inl ⟨job, rest, round, stepped.symm⟩
    next round =>
      split at stepped
      · cases stepped
      next goes => exact .inr ⟨round, by simpa using goes, stepped⟩

/-- A pool that is in turn stays so. -/
theorem inTurn_step (s t : State τ ω σ κ) (inTurn : InTurn s) (stepped : step sys s = some t) :
    InTurn t := by
  rcases step_cases sys s t stepped with ⟨job, rest, round, rfl⟩ | ⟨round, -, begun⟩
  · exact (even_run sys s job rest round inTurn).inTurn inTurn
  · exact (even_beginRound s t round begun).inTurn inTurn

omit [Scalar τ] in
/-- A job that leaves the round does not show, unless it is an interrupt. -/
theorem view_drop (s : State τ ω σ κ) (job : Job) (rest : List Job) (round : s.round = job :: rest)
    (other : job ≠ .interrupt) : ({ s with round := rest } : State τ ω σ κ).view = s.view := by
  have same : s.jobs.count .interrupt =
      ({ s with round := rest } : State τ ω σ κ).jobs.count .interrupt := by
    simp [State.count_jobs, round, other]
  simp only [State.view, same]

/-- The steps of a pool are moves. -/
theorem moves_step (s t : State τ ω σ κ) (inTurn : InTurn s) (stepped : step sys s = some t) :
    Relation.ReflTransGen (Moves sys) s t := by
  rcases step_cases sys s t stepped with ⟨job, rest, round, rfl⟩ | ⟨round, -, begun⟩
  · have queued : job ∈ s.jobs := by simp [State.jobs, round]
    -- Taking the job out of the round does not show; what the job does is a move of its own.
    have dropped (other : job ≠ .interrupt) : Moves sys s { s with round := rest } :=
      .reschedule (view_drop s job rest round other)
    cases job with
    | turn member =>
      refine .tail (.single (dropped (by simp))) ?_
      cases member with
      | worker i =>
        obtain ⟨w, found, ready⟩ := inTurn.worker_of_mem queued
        exact .worker i w found (outcome_of_ready ready)
      | supervisor =>
        have ready := inTurn.ready_of_mem queued
        -- The supervisor is ready, so it has not finished.
        apply Moves.supervisor
        cases attention : s.attention <;>
          simp_all [State.isReady, State.view, Attention.isFinished]
    | alarm member =>
      exact .tail (.single (dropped (by simp))) (.reschedule (State.view_ring _ member))
    | news i => exact .tail (.single (dropped (by simp))) (.reschedule (State.view_hear _ i))
    | interrupt =>
      refine .single (.interrupt ?_)
      -- The interrupt leaves the queue together with its move, which shows.
      simp only [State.view, State.count_jobs, round, List.count_cons_self]
      rw [Nat.add_right_comm]
    | close => exact .tail (.single (dropped (by simp))) (.reschedule rfl)
  · exact .single (.reschedule (view_beginRound s t round begun))

/-- Moves are all that a pool does until it is exhausted. -/
theorem moves_exhaust (budget : Nat) (s : State τ ω σ κ) (inTurn : InTurn s) :
    Relation.ReflTransGen (Moves sys) s (exhaust sys budget s) ∧ InTurn (exhaust sys budget s) := by
  induction budget generalizing s with
  | zero => exact ⟨.refl, inTurn⟩
  | succ budget ih =>
    unfold exhaust
    split
    · exact ⟨.refl, inTurn⟩
    next t stepped =>
      have next := ih t (inTurn_step sys s t inTurn stepped)
      exact ⟨(moves_step sys s t inTurn stepped).trans next.1, next.2⟩

/-- Moves are all that a pool does when it is conducted. -/
theorem moves_conduct (budget : Nat) (s : State τ ω σ κ) (inTurn : InTurn s) :
    Relation.ReflTransGen (Moves sys) s (conduct sys budget s) ∧ InTurn (conduct sys budget s) := by
  induction budget generalizing s with
  | zero => exact ⟨.refl, inTurn⟩
  | succ budget ih =>
    unfold conduct
    split
    · exact ⟨.refl, inTurn⟩
    · split
      · exact ⟨.refl, inTurn⟩
      next t stepped =>
        have next := ih t (inTurn_step sys s t inTurn stepped)
        exact ⟨(moves_step sys s t inTurn stepped).trans next.1, next.2⟩

end Steps

end Pool

end Volley
