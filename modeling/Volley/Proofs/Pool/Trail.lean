import Volley.Proofs.Pool.Watch

/-!
# The trail of a pool

A pool that is conducted goes step by step until its supervisor has finished. Of what happens on the
way its trail tells who took a turn, who learnt in its turn that it had been dismissed, and whom the
supervisor dismissed. Every step is either a turn of the supervisor or happens elsewhere: then the
supervisor stays where it is, nobody is dismissed, and nobody comes back who has ended.

## Main definitions

- `Pool.Event`, `Pool.events`: what a step tells.
- `Pool.Trail`: a pool is conducted to some point, and so much happens on the way.
- `Pool.Elsewhere`: what holds of all that is not a turn of the supervisor.
- `Pool.Orderly`: the turns, the jobs and the timers of a pool are in order.

## Main results

- `elsewhere_step`, `Orderly.elsewhere`: the steps between two turns of the supervisor.
- `supervised_step`, `Orderly.supervise`: the turns of the supervisor.
- `trail_conduct`: a pool that is conducted leaves a trail.
-/

namespace Volley

namespace Pool

open Scalar (Exact)

variable {τ ω σ κ : Type}

/-! ### What a command makes of the crew -/

namespace View

/-- A worker has been dismissed and has not learnt of it yet. -/
def IsDismissed (v : View ω σ κ) (i : Nat) : Prop :=
  ∃ standing, v.crew[i]? = some standing ∧ standing.dismissed = true

/-- Whether somebody has ended shows on the roster. -/
theorem hasEnded_iff_roster {v : View ω σ κ} {i : Nat} :
    v.hasEnded i ↔ ∃ state outcome, (roster v.crew)[i]? = some (state, some outcome) := by
  simp only [hasEnded, roster, List.getElem?_map, Option.map_eq_some_iff]
  constructor
  · rintro ⟨standing, placed, ended⟩
    obtain ⟨outcome, same⟩ := Option.ne_none_iff_exists'.mp ended
    exact ⟨standing.state, outcome, standing, placed, by rw [same]⟩
  · rintro ⟨state, outcome, standing, placed, same⟩
    refine ⟨standing, placed, ?_⟩
    rw [(Prod.mk.inj same).2]
    exact Option.some_ne_none outcome

end View

/-- Dismissals reach no others than those who are dismissed. -/
theorem dismissed_of_foldl {crew : List (Standing κ)} {i : Nat} {standing : Standing κ}
    (ids : List Nat) (placed : (ids.foldl dismissAt crew)[i]? = some standing)
    (dismissed : standing.dismissed = true) :
    i ∈ ids ∨ ∃ before, crew[i]? = some before ∧ before.dismissed = true := by
  -- Induction on those who are dismissed, the first of whom changes the crew for the others.
  induction ids generalizing crew with
  | nil => exact .inr ⟨standing, placed, dismissed⟩
  | cons j rest ih =>
    rcases ih placed with later | ⟨after, placed', dismissed'⟩
    · exact .inl (.tail _ later)
    · by_cases here : j = i
      · exact .inl (here ▸ .head _)
      · refine .inr ⟨after, ?_, dismissed'⟩
        simpa [dismissAt, List.getElem?_modify, here] using placed'

/-- Dismissals reach all that are dismissed and have not ended. -/
theorem getElem?_foldl_dismissAt {crew : List (Standing κ)} {i : Nat} {standing : Standing κ}
    (ids : List Nat) (placed : crew[i]? = some standing) (active : standing.outcome = none) :
    (ids.foldl dismissAt crew)[i]? =
      some { standing with dismissed := standing.dismissed || ids.contains i } := by
  induction ids generalizing crew standing with
  | nil => simpa using placed
  | cons j rest ih =>
    rw [List.foldl_cons]
    by_cases here : j = i
    · subst here
      have struck : (dismissAt crew j)[j]? = some { standing with dismissed := true } := by
        simp [dismissAt, placed, Standing.dismiss, active]
      rw [ih struck active]
      simp
    · have elsewhere : (dismissAt crew j)[i]? = some standing := by
        simp [dismissAt, here, placed]
      have other : (j :: rest).contains i = rest.contains i := by
        simp [Ne.symm here]
      rw [ih elsewhere active, other]

namespace View

variable {v : View ω σ κ} {command : Command τ ω σ κ} {i : Nat}

/-- No command brings anybody back. -/
theorem hasEnded_afterCommand (ended : v.hasEnded i) : (v.afterCommand command).hasEnded i := by
  rw [hasEnded_iff_roster] at ended ⊢
  obtain ⟨state, outcome, placed⟩ := ended
  refine ⟨state, outcome, ?_⟩
  rw [afterCommand, roster_foldl_dismissAt, roster, List.map_append]
  obtain ⟨inside, -⟩ := List.getElem?_eq_some_iff.mp placed
  exact (List.getElem?_append_left inside).trans placed

/-- Nobody is hired dismissed. -/
theorem isDismissed_of_afterCommand (struck : (v.afterCommand command).IsDismissed i) :
    v.IsDismissed i ∨ i ∈ command.dismiss := by
  obtain ⟨standing, placed, dismissed⟩ := struck
  rcases dismissed_of_foldl _ placed dismissed with listed | ⟨before, placed', dismissed'⟩
  · exact .inr listed
  · left
    by_cases inside : i < v.crew.length
    · rw [List.getElem?_append_left inside] at placed'
      exact ⟨before, placed', dismissed'⟩
    · rw [List.getElem?_append_right (Nat.le_of_not_lt inside), List.getElem?_map,
        Option.map_eq_some_iff] at placed'
      obtain ⟨state, -, rfl⟩ := placed'
      cases dismissed'

/-- A command reaches all those whom it dismisses and who have not ended. -/
theorem isDismissed_afterCommand (inside : i < v.crew.length) (active : ¬ v.hasEnded i)
    (listed : i ∈ command.dismiss) : (v.afterCommand command).IsDismissed i := by
  have placed : (v.crew ++ command.hire.map fresh)[i]? = some v.crew[i] := by
    rw [List.getElem?_append_left inside, List.getElem?_eq_getElem inside]
  have outcome : v.crew[i].outcome = none := by
    by_contra ended
    exact active ⟨_, List.getElem?_eq_getElem inside, ended⟩
  refine ⟨_, getElem?_foldl_dismissAt command.dismiss placed outcome, ?_⟩
  simp [listed]

end View

/-! ### Elsewhere -/

/-- What holds of all that happens while the supervisor does not take its turn. -/
structure Elsewhere [Scalar τ] (s t : State τ ω σ κ) : Prop where
  supervisor : t.supervisor = s.supervisor
  now : s.now ≤ t.now
  stop : s.stop = true → t.stop = true
  size : t.view.crew.length = s.view.crew.length
  ended : ∀ i, s.view.hasEnded i → t.view.hasEnded i
  dismissed : ∀ i, t.view.IsDismissed i → s.view.IsDismissed i

section Steps

variable [Scalar τ] {sys : System τ ω σ κ} {s t : State τ ω σ κ}

/-- What is not seen happens elsewhere, if it takes no time back. -/
theorem elsewhere_of_view (view : t.view = s.view) (now : s.now ≤ t.now) : Elsewhere s t := by
  refine ⟨congrArg View.supervisor view, now, ?_, by rw [view], by simp [view], by simp [view]⟩
  intro raised
  exact (congrArg View.stop view).trans raised

variable [Exact τ]

theorem Elsewhere.trans {u : State τ ω σ κ} (first : Elsewhere s t) (second : Elsewhere t u) :
    Elsewhere s u :=
  ⟨second.supervisor.trans first.supervisor, Exact.le_trans _ _ _ first.now second.now,
    second.stop ∘ first.stop, second.size.trans first.size,
    fun i => second.ended i ∘ first.ended i, fun i => first.dismissed i ∘ second.dismissed i⟩

variable (sys) in
/-- A turn of a worker happens elsewhere. -/
theorem elsewhere_runWorker {i : Nat} {w : Worker κ} (found : s.workers[i]? = some w)
    (active : w.outcome? = none) : Elsewhere s (runWorker sys s i) := by
  have view := view_runWorker sys s i w found active
  have apart := apart_runWorker sys s i w found active
  refine ⟨congrArg View.supervisor view, apart.now.symm ▸ Exact.le_refl _, ?_, ?_, apart.ended, ?_⟩
  · intro raised
    have stop : (runWorker sys s i).stop = (s.stop || _) := congrArg View.stop view
    rw [stop, raised, Bool.true_or]
  · rw [view]
    exact List.length_set
  · -- Who has taken a turn has learnt of its dismissal.
    rintro j ⟨standing, placed, dismissed⟩
    rw [view] at placed
    simp only [View.afterTurn, List.getElem?_set] at placed
    split at placed
    · split at placed
      · cases placed
        cases dismissed
      · cases placed
    · exact ⟨standing, placed, dismissed⟩

/-- Every step that is not a turn of the supervisor happens elsewhere. -/
theorem elsewhere_step (tidy : Tidy s) (inTurn : InTurn s)
    (other : ∀ rest, s.round ≠ .turn .supervisor :: rest) (stepped : step sys s = some t) :
    Elsewhere s t := by
  have now := le_step sys tidy inTurn stepped
  rcases step_cases sys s t stepped with ⟨job, rest, round, rfl⟩ | ⟨round, -, begun⟩
  · -- Signals apart, a job that leaves the round does not show, so what is seen is what the job
    -- does.
    have dropped (still : job ≠ .interrupt) := view_drop s job rest round still
    cases job with
    | turn member =>
      cases member with
      | worker i =>
        obtain ⟨w, found, ready⟩ := inTurn.worker_of_mem (i := i) (by simp [State.jobs, round])
        obtain ⟨supervisor, -, stop, size, ended, dismissed⟩ :=
          elsewhere_runWorker sys (s := { s with round := rest }) found
            (outcome_of_ready ready)
        exact ⟨supervisor, now, stop, size, ended, dismissed⟩
      | supervisor => exact absurd round (other rest)
    | alarm member =>
      exact elsewhere_of_view ((State.view_ring _ member).trans (dropped (by simp))) now
    | news i => exact elsewhere_of_view ((State.view_hear _ i).trans (dropped (by simp))) now
    | interrupt =>
      -- It raises the flag, and the world is not looked at here.
      have view := view_runInterrupt sys { s with round := rest }
      have crew : (run sys { s with round := rest } .interrupt).view.crew = s.view.crew :=
        congrArg (fun v => v.crew) view
      refine ⟨rfl, now, fun _ => rfl, by rw [crew], ?_, ?_⟩
      · unfold View.hasEnded
        simp [crew]
      · unfold View.IsDismissed
        simp [crew]
    | close => exact elsewhere_of_view (dropped (by simp)) now
  · exact elsewhere_of_view (view_beginRound s t round begun) now

/-! ### Order -/

/-- The turns, the jobs and the timers of a pool are in order, and unless it was halted, its
supervisor hears of those who end. -/
structure Orderly (s : State τ ω σ κ) : Prop where
  inTurn : InTurn s
  tidy : Tidy s
  attentive : s.demand = none → Attentive s

omit [Exact τ] in
/-- A new pool is in order. -/
theorem orderly_new (now : τ) (supervisor : σ) (world : ω) :
    Orderly ({ now, supervisor, world } : State τ ω σ κ) :=
  ⟨inTurn_new now supervisor world, tidy_new now supervisor world,
    fun _ => attentive_new now supervisor world⟩

omit [Exact τ] in
/-- A pool that takes a step was not halted before it. -/
theorem calm_of_step (stepped : step sys s = some t) : s.demand = none := by
  cases demand : s.demand with
  | none => rfl
  | some fault => simp [step, demand] at stepped

/-- A pool stays in order when something happens elsewhere. -/
theorem Orderly.elsewhere (orderly : Orderly s)
    (other : ∀ rest, s.round ≠ .turn .supervisor :: rest) (stepped : step sys s = some t) :
    Orderly t := by
  obtain ⟨inTurn, tidy, attentive⟩ := orderly
  exact ⟨inTurn_step sys s t inTurn stepped, tidy_step sys tidy inTurn stepped,
    attentive_step_of_calm sys s t (attentive (calm_of_step stepped)) inTurn stepped other⟩

/-- What a supervisor does that has its turn. -/
structure Supervised (sys : System τ ω σ κ) (s t : State τ ω σ κ) : Prop where
  ready : s.attention = .ready
  now : t.now = s.now
  view : t.view = s.view.afterCommand (sys.supervise s.glance s.world s.supervisor)
  watch : ∀ crew time, (sys.supervise s.glance s.world s.supervisor).order =
    .wait crew (some time) → 0 ≤ time → Watch crew (s.now + time) t

omit [Exact τ] in
/-- The supervisor becomes what its command says. -/
theorem Supervised.supervisor (supervised : Supervised sys s t) :
    t.supervisor = (sys.supervise s.glance s.world s.supervisor).state :=
  congrArg View.supervisor supervised.view

omit [Exact τ] in
/-- Whoever has ended before the turn of the supervisor has ended after it. -/
theorem Supervised.ended (supervised : Supervised sys s t) (i : Nat) (ended : s.view.hasEnded i) :
    t.view.hasEnded i := by
  rw [supervised.view]
  exact View.hasEnded_afterCommand ended

omit [Exact τ] in
/-- A command to finish is the last one. -/
theorem Supervised.finished (supervised : Supervised sys s t)
    (order : (sys.supervise s.glance s.world s.supervisor).order = .finish) :
    t.attention = .finished := by
  have finished : t.attention.isFinished =
      (sys.supervise s.glance s.world s.supervisor).order.finishes :=
    congrArg View.finished supervised.view
  rw [order] at finished
  cases attention : t.attention <;> simp_all [Attention.isFinished, Order.finishes]

/-- The turns of the supervisor in a pool in order. -/
theorem supervised_step (tidy : Tidy s) (inTurn : InTurn s) {rest : List Job}
    (round : s.round = .turn .supervisor :: rest) (stepped : step sys s = some t) :
    Supervised sys s t := by
  have ready := inTurn.attention_of_mem (by simp [State.jobs, round])
  rw [step_of_round sys s (calm_of_step stepped) round, Option.some.injEq] at stepped
  subst stepped
  refine ⟨ready, (tidy_run sys tidy inTurn round).2, ?_, ?_⟩
  · have view := view_runSupervisor sys { s with round := rest } tidy.kept
      (by simp [State.view, ready, Attention.isFinished])
    rw [view_drop s _ rest round (by simp)] at view
    exact view
  · intro crew time order positive
    exact watch_runSupervisor sys (tidy.drop round) ready positive order

/-- A pool stays in order when the supervisor takes its turn, unless it finishes. -/
theorem Orderly.supervise (orderly : Orderly s) {rest : List Job}
    (round : s.round = .turn .supervisor :: rest) (stepped : step sys s = some t)
    (working : (sys.supervise s.glance s.world s.supervisor).order ≠ .finish)
    (waits : ∀ crew limit, (sys.supervise s.glance s.world s.supervisor).order =
      .wait crew limit → crew.Nodup ∧ ∀ i ∈ crew, i < s.view.crew.length +
        (sys.supervise s.glance s.world s.supervisor).hire.length) : Orderly t := by
  obtain ⟨inTurn, tidy, attentive⟩ := orderly
  have calm := calm_of_step stepped
  refine ⟨inTurn_step sys s t inTurn stepped, tidy_step sys tidy inTurn stepped, fun _ => ?_⟩
  -- The step is the turn itself, with the job taken off the round.
  rw [step_of_round sys s calm round, Option.some.injEq] at stepped
  subst stepped
  exact ((attentive calm).drop round (by simp)).runSupervisor tidy.kept
    (inTurn.attention_of_mem (by simp [State.jobs, round])) working waits

end Steps

/-! ### Trails -/

/-- What happens in a pool: a worker takes a turn, and it may learn that it has been dismissed; or
the supervisor dismisses a worker. -/
inductive Event where
  | turn (i : Nat) (wake : Wake)
  | dismissal (i : Nat)
  deriving DecidableEq, Repr

def Event.isTurn : Event → Bool
  | turn _ _ => true
  | dismissal _ => false

def Event.isDismissal : Event → Bool
  | turn _ _ => false
  | dismissal _ => true

section Trails

variable [Scalar τ] (sys : System τ ω σ κ)

/-- What happens in the next step of a pool. -/
def events (s : State τ ω σ κ) : List Event :=
  match s.round with
  | .turn (.worker i) :: _ =>
    (s.workers[i]?).toList.map fun w => .turn i (if w.dismissed then .dismissed else .elapsed)
  | .turn .supervisor :: _ =>
    if s.givenUp then []
    else (sys.supervise s.glance s.world s.supervisor).dismiss.map .dismissal
  | _ => []

/-- The pool is conducted from one point to another, and these events happen on the way. -/
inductive Trail (a : State τ ω σ κ) : List Event → State τ ω σ κ → Prop
  | refl : Trail a [] a
  | tail {told : List Event} {s t : State τ ω σ κ} (trail : Trail a told s)
      (working : s.attention ≠ .finished) (stepped : step sys s = some t) :
      Trail a (told ++ events sys s) t

/-- What happens in a pool that is conducted. -/
def trail : (budget : Nat) → State τ ω σ κ → List Event
  | 0, _ => []
  | budget + 1, s =>
    if s.attention = .finished then []
    else match step sys s with
      | none => []
      | some next => events sys s ++ trail budget next

variable {sys} {a s t : State τ ω σ κ} {told told' : List Event} {i : Nat}

omit [Scalar τ] in
variable (sys) in
theorem events_of_supervisor {rest : List Job} (kept : s.givenUp = false)
    (round : s.round = .turn .supervisor :: rest) :
    events sys s =
      (sys.supervise s.glance s.world s.supervisor).dismiss.map .dismissal := by
  simp [events, round, kept]

omit [Scalar τ] in
/-- Only in its own turn the supervisor dismisses somebody. -/
theorem not_dismissal_of_elsewhere (other : ∀ rest, s.round ≠ .turn .supervisor :: rest) :
    .dismissal i ∉ events sys s := by
  unfold events
  split
  · simp
  next rest round => exact absurd round (other rest)
  · exact List.not_mem_nil

omit [Scalar τ] in
/-- Only who has been dismissed learns of it. -/
theorem isDismissed_of_turn (told : .turn i .dismissed ∈ events sys s) : s.view.IsDismissed i := by
  unfold events at told
  split at told
  next j rest round =>
    obtain ⟨w, found, same⟩ := List.mem_map.mp told
    -- The event tells how the worker wakes up, and only one that was dismissed wakes up that way.
    obtain ⟨rfl, wake⟩ := Event.turn.inj same
    rw [Option.mem_toList] at found
    refine ⟨w.standing, by simp [State.view, Option.mem_def.mp found], ?_⟩
    by_contra undismissed
    have standing : w.dismissed ≠ true := undismissed
    simp [standing] at wake
  · split at told
    · cases told
    · simp at told
  · cases told

/-- One trail goes on where the other has ended. -/
theorem Trail.trans (first : Trail sys a told s) (second : Trail sys s told' t) :
    Trail sys a (told ++ told') t := by
  induction second with
  | refl => rwa [List.append_nil]
  | tail _ working stepped ih =>
    rw [← List.append_assoc]
    exact ih.tail working stepped

/-- A step leaves a trail. -/
theorem Trail.single (working : s.attention ≠ .finished) (stepped : step sys s = some t) :
    Trail sys s (events sys s) t :=
  Trail.refl.tail working stepped

variable (sys) in
/-- A pool that is conducted leaves a trail. -/
theorem trail_conduct (budget : Nat) (s : State τ ω σ κ) :
    Trail sys s (trail sys budget s) (conduct sys budget s) := by
  -- Induction on the budget, so the first step comes before the trail of what is left.
  induction budget generalizing s with
  | zero => exact .refl
  | succ budget ih =>
    unfold trail conduct
    by_cases finished : s.attention = .finished
    · rw [if_pos finished, if_pos finished]
      exact .refl
    · rw [if_neg finished, if_neg finished]
      cases stepped : step sys s with
      | none => exact .refl
      | some t => exact (Trail.single finished stepped).trans (ih t)

end Trails

end Pool

end Volley
