import Volley.Proofs.Pool.Trail
import Volley.Proofs.Run.Advance

/-!
# Steps of a session

A session that is carried out goes step by step under the schedule of its pool, and between two
steps a signal may come in or somebody outside may ask for a stop. Unlike the moves under any
schedule, such a course keeps to the clock. It has two kinds of steps: in its own turn the director
does one of its duties; all else happens meanwhile, and leaves the director and its waits alone.

## Main definitions

- `Run.Passes`, `Run.Course`: a step of a session, and many of them.
- `Run.Regular`: the turns, the jobs and the timers of a session are in order.
- `Run.Meanwhile`, `Run.Directs`: the two kinds of steps.

## Main results

- `passes_cases`: every step is of one of the two kinds.
- `regular_of_course`: a session is in order all the time.
- `laps_of_passes`: only users that have not ended begin and end iterations.
-/

namespace Volley

namespace Run

open Http Pool
open Scalar (Exact)

variable {τ β : Type}

section

variable [Scalar τ] (plan : Plan τ) (body : Body τ β)

/-- A step of a session, or what comes in between two steps. -/
inductive Passes : RunState τ β → RunState τ β → Prop
  | stepped {s t : RunState τ β} (stepped : step (system plan body) s = some t) : Passes s t
  | signalled {s : RunState τ β} (handled : s.world.handling = true) :
      Passes s (s.enqueue .interrupt)
  | asked {s : RunState τ β} : Passes s (askToStop s)

/-- What a session comes to step by step. -/
abbrev Course : RunState τ β → RunState τ β → Prop :=
  Relation.ReflTransGen (Passes plan body)

/-- The turns, the jobs and the timers of a session are in order. -/
structure Regular (s : RunState τ β) : Prop where
  inTurn : InTurn s
  tidy : Tidy s

/-- A worker has been dismissed and has not learnt of it yet. -/
def Dismissed (v : RunView τ β) (i : Nat) : Prop :=
  ∃ standing, v.crew[i]? = some standing ∧ standing.dismissed = true

/-- What happens while the director does not take its turn. -/
structure Meanwhile (s t : RunState τ β) : Prop where
  supervisor : t.supervisor = s.supervisor
  now : s.now ≤ t.now
  watch : ∀ crew limit, Watch crew limit s → Watch crew limit t
  ended : ∀ i, s.view.hasEnded i → t.view.hasEnded i
  dismissed : ∀ i, Dismissed t.view i → Dismissed s.view i
  crew : t.world.crew = s.world.crew
  history : ∃ latest, t.world.history = latest ++ s.world.history ∧
    ∀ worker time, .dismissed worker time ∉ latest
  /-- Only a user that has not ended, in its own turn, changes the laps. -/
  laps : t.world.laps = s.world.laps ∨
    ∃ i rest, s.round = .turn (.worker i) :: rest ∧ ¬ s.view.hasEnded i

/-- The director takes its turn, and carries out a command. -/
structure Directs (s t : RunState τ β) (command : Director.RunCommand τ β) : Prop where
  duty : Duty plan s.glance s.world s.supervisor command
  ready : s.attention = .ready
  supervisor : t.supervisor = command.state
  world : t.world = command.world
  now : t.now = s.now
  watch : ∀ crew time, command.order = .wait crew (some time) → 0 ≤ time →
    Watch crew (s.now + time) t
  ended : ∀ i, s.view.hasEnded i → t.view.hasEnded i
  dismissed : ∀ i, Dismissed t.view i → Dismissed s.view i ∨ i ∈ command.dismiss

end

section Steps

variable [Scalar τ] {plan : Plan τ} {body : Body τ β} {s t : RunState τ β}

/-- What the view does not show does not concern the director. -/
theorem meanwhile_of_view (view : t.view = s.view) (now : s.now ≤ t.now)
    (watch : ∀ crew limit, Watch crew limit s → Watch crew limit t) : Meanwhile s t := by
  refine ⟨congrArg View.supervisor view, now, watch, ?_, ?_,
    congrArg (fun v => v.world.crew) view,
    ⟨[], congrArg (fun v => v.world.history) view, fun _ _ => List.not_mem_nil⟩,
    .inl (congrArg (fun v => v.world.laps) view)⟩
  · rw [view]
    exact fun _ => id
  · rw [view]
    exact fun _ => id

/-- Nor does what only makes remarks. -/
theorem meanwhile_of_remarks (remarks : Remarks s.now [] s.world t.world)
    (supervisor : t.supervisor = s.supervisor) (standings : t.view.crew = s.view.crew)
    (now : s.now ≤ t.now)
    (watch : ∀ crew limit, Watch crew limit s → Watch crew limit t) : Meanwhile s t := by
  obtain ⟨latest, history, mine⟩ := remarks.history
  refine ⟨supervisor, now, watch, ?_, ?_, remarks.crew, ⟨latest, history, ?_⟩,
    .inl (congrArg Books.laps remarks.untouched.books)⟩
  · unfold View.hasEnded
    rw [standings]
    exact fun _ => id
  · unfold Dismissed
    rw [standings]
    exact fun _ => id
  · -- A remark tells of no dismissal, as it has nobody to name.
    intro worker time member
    exact List.not_mem_nil (mine _ member).1

theorem apart_askToStop : Apart s (askToStop s) := by
  have asked : Apart s { s with world := s.world.requestStop.2 } :=
    State.apart_of_same rfl rfl rfl rfl rfl rfl fun _ => id
  unfold askToStop
  dsimp only
  split
  · exact asked.trans (State.apart_raiseStop _)
  · exact asked

variable [Exact τ]

theorem meanwhile_worker {rest : List Job} {i : Nat} (regular : Regular s)
    (round : s.round = .turn (.worker i) :: rest)
    (watch : ∀ crew limit, Watch crew limit s → Watch crew limit
      (run (system plan body) { s with round := rest } (.turn (.worker i)))) :
    Meanwhile s (run (system plan body) { s with round := rest } (.turn (.worker i))) := by
  obtain ⟨w, found, ready⟩ := regular.inTurn.worker_of_mem (i := i) (by simp [State.jobs, round])
  have active := outcome_of_ready ready
  -- The turn is taken out of the round before it is carried out, which the view does not show.
  generalize before_eq : ({ s with round := rest } : RunState τ β) = before
  have found' : before.workers[i]? = some w := by
    subst before_eq
    exact found
  have view := view_runWorker (system plan body) before i w found' active
  have elsewhere := elsewhere_runWorker (system plan body) found' active
  have same : before.view = s.view := by
    subst before_eq
    exact view_drop s _ rest round (by simp)
  have world : before.world = s.world := congrArg View.world same
  have writes : Writes before.now s.world (runWorker (system plan body) before i).world := by
    have writes := writes_work plan body before.glance before.world w.state
      (if w.dismissed then .dismissed else .elapsed)
    rw [world] at writes
    rw [show (runWorker (system plan body) before i).world = _ from congrArg View.world view,
      world]
    exact writes
  obtain ⟨latest, history, mine⟩ := writes.history
  -- A worker writes only what it may, and that is never that somebody was dismissed.
  refine ⟨?_, ?_, ?_, ?_, ?_, writes.crew, ⟨latest, history, ?_⟩,
    .inr ⟨i, rest, round, State.not_hasEnded found active⟩⟩
  · exact elsewhere.supervisor.trans (congrArg View.supervisor same)
  · have now : before.now = s.now := by
      subst before_eq
      rfl
    exact now ▸ elsewhere.now
  · subst before_eq
    exact watch
  · rw [← same]
    exact elsewhere.ended
  · rw [← same]
    exact elsewhere.dismissed
  · intro worker time member
    exact mine _ member

theorem directs_supervisor {rest : List Job} (regular : Regular s)
    (round : s.round = .turn .supervisor :: rest) :
    Directs plan s (run (system plan body) { s with round := rest } (.turn .supervisor))
      (Director.supervise plan s.glance s.world s.supervisor) := by
  -- Only who is ready has a turn in the round.
  have ready := regular.inTurn.attention_of_mem (by simp [State.jobs, round])
  have tidy := regular.tidy.drop round
  have now := (tidy_run (system plan body) regular.tidy regular.inTurn round).2
  have view := view_runSupervisor (system plan body) { s with round := rest } regular.tidy.kept
    (by simp [State.view, ready, Attention.isFinished])
  rw [view_drop s _ rest round (by simp)] at view
  have view : (run (system plan body) { s with round := rest } (.turn .supervisor)).view =
      s.view.afterCommand (Director.supervise plan s.glance s.world s.supervisor) := view
  refine ⟨duty_supervise plan s.supervisor s.glance, ready, congrArg View.supervisor view,
    congrArg View.world view, now, ?_, ?_, ?_⟩
  · intro crew time order positive
    exact watch_runSupervisor (system plan body) tidy ready positive order
  · intro i ended
    rw [view]
    exact View.hasEnded_afterCommand ended
  · intro i struck
    rw [view] at struck
    exact View.isDismissed_of_afterCommand struck

/-- A step is the turn of the director, or something happens meanwhile. -/
theorem passes_cases (regular : Regular s) (passes : Passes plan body s t) :
    Meanwhile s t ∨ ∃ rest, s.round = .turn .supervisor :: rest ∧
      Directs plan s t (Director.supervise plan s.glance s.world s.supervisor) := by
  have apart {u : RunState τ β} (apart : Apart s u) (crew : List Nat) (limit : τ)
      (watch : Watch crew limit s) : Watch crew limit u :=
    watch.apart regular.tidy apart
  -- By the job that is at the front of the round; without one a new round begins.
  cases passes with
  | stepped stepped =>
    have now := le_step (system plan body) regular.tidy regular.inTurn stepped
    -- In every step that is not the director's, its watch goes on.
    have watch (other : ∀ rest, s.round ≠ .turn .supervisor :: rest) (crew : List Nat) (limit : τ)
        (watch : Watch crew limit s) : Watch crew limit t :=
      watch_step (system plan body) watch regular.tidy regular.inTurn other stepped
    rcases step_cases (system plan body) s t stepped with
      ⟨job, rest, round, rfl⟩ | ⟨round, -, begun⟩
    · have dropped (still : job ≠ .interrupt) := view_drop s job rest round still
      cases job with
      | turn member =>
        cases member with
        | worker i => exact .inl (meanwhile_worker regular round (watch (by simp [round])))
        | supervisor => exact .inr ⟨rest, round, directs_supervisor regular round⟩
      | alarm member =>
        exact .inl (meanwhile_of_view ((State.view_ring _ member).trans (dropped (by simp))) now
          (watch (by simp [round])))
      | news i =>
        exact .inl (meanwhile_of_view ((State.view_hear _ i).trans (dropped (by simp))) now
          (watch (by simp [round])))
      | interrupt =>
        have standings : (runInterrupt (system plan body) { s with round := rest }).view.crew =
            s.view.crew := by
          rw [view_runInterrupt]
          rfl
        exact .inl (meanwhile_of_remarks (remarks_signalled s.now s.world) rfl standings now
          (watch (by simp [round])))
      | close =>
        exact .inl (meanwhile_of_view (dropped (by simp)) now (watch (by simp [round])))
    · exact .inl (meanwhile_of_view (view_beginRound s t round begun) now
        (watch (by simp [round])))
  | signalled handled =>
    exact .inl (meanwhile_of_remarks (.refl _) rfl rfl (Exact.le_refl _)
      (apart (s.apart_enqueue (by simp) (by simp))))
  -- A stop that is asked for from outside leaves a remark and raises the flag.
  | asked =>
    have view := view_askToStop s
    have world : (askToStop s).world = s.world.requestStop.2 := congrArg View.world view
    have asked : Apart s (askToStop s) := apart_askToStop
    exact .inl (meanwhile_of_remarks (world ▸ remarks_requestStop s.now s.world)
      (congrArg View.supervisor view) (by rw [view])
      (asked.now.symm ▸ Exact.le_refl _) (apart asked))

/-! ### Courses -/

omit [Scalar τ] [Exact τ] in
theorem inTurn_askToStop (inTurn : InTurn s) : InTurn (askToStop s) := by
  -- The answer to whoever asked is not part of the turns.
  have asked : Even s { s with world := s.world.requestStop.2 } := fun _ => rfl
  unfold askToStop
  dsimp only
  split
  · exact (asked.trans (State.even_raiseStop _)).inTurn inTurn
  · exact asked.inTurn inTurn

theorem regular_of_passes (regular : Regular s) (passes : Passes plan body s t) : Regular t := by
  cases passes with
  | stepped stepped =>
    exact ⟨inTurn_step (system plan body) s t regular.inTurn stepped,
      tidy_step (system plan body) regular.tidy regular.inTurn stepped⟩
  | signalled handled =>
    exact ⟨(s.even_enqueue .interrupt (by simp)).inTurn regular.inTurn,
      regular.tidy.apart (s.apart_enqueue (by simp) (by simp))⟩
  | asked => exact ⟨inTurn_askToStop regular.inTurn, regular.tidy.apart apart_askToStop⟩

omit [Exact τ] in
theorem regular_initial (tasks : List Task) (transport : Transport τ) (now : τ) :
    Regular (initial tasks transport now : RunState τ β) :=
  ⟨inTurn_initial tasks transport now, tidy_new now _ _⟩

/-- A session is in order at every point of its course. -/
theorem regular_of_course (regular : Regular s) (course : Course plan body s t) : Regular t := by
  induction course with
  | refl => exact regular
  | tail _ passes ih => exact regular_of_passes ih passes

omit [Exact τ] in
/-- What a session comes to step by step it comes to under some schedule. -/
theorem reaches_of_passes (regular : Regular s) (passes : Passes plan body s t) :
    Reaches plan body s t := by
  cases passes with
  | stepped stepped =>
    exact reaches_of_moves plan body
      (moves_step (system plan body) s t regular.inTurn stepped)
  | signalled handled => exact .single (.signalled handled)
  | asked => exact .single .asked

theorem reaches_of_course (regular : Regular s) (course : Course plan body s t) :
    Reaches plan body s t := by
  induction course with
  | refl => exact .refl
  | tail course passes ih =>
    exact ih.trans (reaches_of_passes (regular_of_course regular course) passes)

theorem now_of_course (regular : Regular s) (course : Course plan body s t) : s.now ≤ t.now := by
  induction course with
  | refl => exact Exact.le_refl _
  | tail course passes ih =>
    refine Exact.le_trans _ _ _ ih ?_
    rcases passes_cases (regular_of_course regular course) passes with
      meanwhile | ⟨rest, round, directs⟩
    · exact meanwhile.now
    · exact directs.now.symm ▸ Exact.le_refl _

theorem ended_of_course (regular : Regular s) (course : Course plan body s t) {i : Nat}
    (ended : s.view.hasEnded i) : t.view.hasEnded i := by
  induction course with
  | refl => exact ended
  | tail course passes ih =>
    rcases passes_cases (regular_of_course regular course) passes with
      meanwhile | ⟨rest, round, directs⟩
    · exact meanwhile.ended i ih
    · exact directs.ended i ih

/-- Laps change only when a user takes its turn that has not ended. -/
theorem laps_of_passes (regular : Regular s) (passes : Passes plan body s t) :
    t.world.laps = s.world.laps ∨
      ∃ i rest, s.round = .turn (.worker i) :: rest ∧ ¬ s.view.hasEnded i := by
  rcases passes_cases regular passes with meanwhile | ⟨rest, round, directs⟩
  · exact meanwhile.laps
  · left
    rw [directs.world]
    exact congrArg Books.laps (untouched_duty plan directs.duty).books

end Steps

end Run

end Volley
