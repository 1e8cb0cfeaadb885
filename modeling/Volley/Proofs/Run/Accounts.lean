import Volley.Proofs.Run.Numbers
import Volley.Proofs.Run.Turns

/-!
# The accounts of a run

When a run gives a result, its summary accounts for every number that was claimed until then: the
iteration returned, or it failed by an ordinary fault, or it is the last one of a user and was not
settled. A user has at most one such iteration, so no more of them are missing than there are users.
The laps in turn are what the bodies did: an iteration has ended just where its body finished or
failed, and with that fault.

## Main definitions

- `Run.LastTurn`: a turn in which a body ends its iteration.
- `Run.Accounts`: what a summary says of the laps.

## Main results

- `ended_iff_lastTurn`: an iteration has ended just if its body has.
- `report_made`: every report was made at a point of the session.
- `accounts_of_sound`: a summary that is taken of a sound session accounts for its numbers.
- `accounts_of_reaches`: so every result does.
-/

namespace Volley

namespace Run

open Http Pool

variable {τ β : Type}

/-! ### Settled iterations -/

namespace Lap

/-- An iteration is settled just if it has ended in a way that settles it. -/
theorem mem_settled {laps : List Lap} {iteration : Int} {fault : Option Fault} :
    (iteration, fault) ∈ settled laps ↔
      settles fault = true ∧ ∃ vu, .ended vu iteration fault ∈ laps := by
  induction laps with
  | nil => simp [settled]
  | cons lap earlier ih =>
    cases lap with
    | began vu number => simp [settled, ih]
    | ended vu number last =>
      simp only [settled]
      split
      -- An end that settles its number adds an entry, any other adds none.
      next settles =>
        rw [List.mem_append, ih, List.mem_singleton, Prod.mk.injEq]
        simp only [List.mem_cons, Lap.ended.injEq]
        constructor
        · rintro (⟨settled, user, member⟩ | ⟨rfl, rfl⟩)
          · exact ⟨settled, user, .inr member⟩
          · exact ⟨settles, vu, .inl ⟨rfl, rfl, rfl⟩⟩
        · rintro ⟨settled, user, ⟨rfl, rfl, rfl⟩ | member⟩
          · exact .inr ⟨rfl, rfl⟩
          · exact .inl ⟨settled, user, member⟩
      next open_ =>
        rw [ih]
        constructor
        · rintro ⟨settled, user, member⟩
          exact ⟨settled, user, .tail _ member⟩
        · rintro ⟨settled, user, member⟩
          rcases List.mem_cons.mp member with same | member
          · cases same
            exact absurd settled open_
          · exact ⟨settled, user, member⟩

/-- Settled iterations returned or failed. -/
theorem length_settled (laps : List Lap) :
    (settled laps).length = (settled laps).countP (·.2.isNone) + (faults laps).length := by
  unfold faults
  induction settled laps with
  | nil => rfl
  | cons entry rest ih =>
    obtain ⟨iteration, fault⟩ := entry
    cases fault <;> simp [ih] <;> omega

/-- At most one number of each user is left over. -/
theorem length_leftOver (vus : Nat) (laps : List Lap) :
    (leftOver vus laps).length =
      (List.range vus).countP fun vu : Nat => (unsettled vu laps).isSome := by
  unfold leftOver
  rw [List.length_filterMap_eq_countP]

end Lap

/-! ### Ended iterations -/

/-- An iteration ends in one way. -/
theorem Iteration.Stage.Ends.unique {body : Body τ β} {stage : Iteration.Stage τ β}
    {first second : Option Fault} (ends : stage.Ends body first) (again : stage.Ends body second) :
    first = second := by
  -- The move of the body is one, and it says which end it is.
  cases ends with
  | finishes move =>
    cases again with
    | finishes => rfl
    | fails other => cases move.symm.trans other
  | fails move =>
    cases again with
    | finishes other => cases move.symm.trans other
    | fails other =>
      cases move.symm.trans other
      rfl

section Strides

variable {body : Body τ β} {iterations vu : Nat} {stop : Bool} {b b' : Books}
  {after : VirtualUser.Stage τ β} {outcome : Option Outcome}

/-- The end of an iteration goes into the books as it is. -/
theorem laps_stride {client : Client τ} {iteration : Nat} {stage : Iteration.Stage τ β}
    (stride : Stride body iterations stop vu b (.inside client iteration stage) after b' outcome)
    {fault : Option Fault} (ends : stage.Ends body fault) :
    b'.laps = .ended vu iteration fault :: b.laps := by
  cases stride with
  | continued client iteration stage next onward => exact absurd ends (onward fault)
  | settled client iteration stage fault settles same =>
    rw [ends.unique same]
    rfl
  | aborted client iteration stage fault last aborts same =>
    rw [ends.unique same]
    rfl

/-- An end in the books was there before, or it is that of the iteration that ends here. -/
theorem ended_stride {before : VirtualUser.Stage τ β}
    (stride : Stride body iterations stop vu b before after b' outcome) {user number : Int}
    {fault : Option Fault} (member : .ended user number fault ∈ b'.laps) :
    .ended user number fault ∈ b.laps ∨ ∃ client iteration stage,
      before = .inside client iteration stage ∧ stage.Ends body fault ∧ user = vu ∧
        number = (iteration : Nat) := by
  -- The books grow by one lap at most, and a beginning is no end.
  cases stride with
  | began client lowered free => exact .inl (by simpa [Books.begin] using member)
  | settled client iteration stage fault settles ends =>
    rcases List.mem_cons.mp member with same | member
    · cases same
      exact .inr ⟨client, iteration, stage, rfl, ends, rfl, rfl⟩
    · exact .inl member
  | aborted client iteration stage fault last aborts ends =>
    rcases List.mem_cons.mp member with same | member
    · cases same
      exact .inr ⟨client, iteration, stage, rfl, ends, rfl, rfl⟩
    · exact .inl member
  | _ => exact .inl member

end Strides

/-- A worker takes a turn in which the body that it runs ends the iteration. -/
inductive LastTurn [Scalar τ] (plan : Plan τ) (body : Body τ β) (s : RunState τ β) :
    (vu iteration : Int) → Option Fault → RunState τ β → Prop
  | turn {i iteration : Nat} {w : Worker (VirtualUser τ β)} {client : Client τ}
      {stage : Iteration.Stage τ β} {fault : Option Fault} (found : s.workers[i]? = some w)
      (active : w.outcome? = none) (inside : w.state = ⟨i, .inside client iteration stage⟩)
      (ends : stage.Ends body fault) :
      LastTurn plan body s i iteration fault (runWorker (system plan body) s i)

section Ended

variable [Scalar τ] {plan : Plan τ} {body : Body τ β} {s t : RunState τ β} {vu iteration : Int}
  {fault : Option Fault}

variable (plan body) in
/-- What a turn of a worker writes into the books is a stride of its user. -/
theorem stride_turn {i : Nat} {w : Worker (VirtualUser τ β)} (found : s.workers[i]? = some w)
    (active : w.outcome? = none) :
    Stride body plan.options.iterations s.glance.stop w.state.vu s.world.books w.state.stage
      (turnOf plan body s w).state.stage (runWorker (system plan body) s i).world.books
      (turnOf plan body s w).pause.outcome? := by
  rw [world_runWorker plan body found active]
  exact (stride_work plan body s.glance s.world w.state _).2

/-- A last turn goes into the books at once. -/
theorem LastTurn.laps (last : LastTurn plan body s vu iteration fault t) :
    t.world.laps = .ended vu iteration fault :: s.world.laps := by
  obtain ⟨found, active, inside, ends⟩ := last
  have stride := stride_turn plan body found active
  rw [inside] at stride
  exact laps_stride stride ends

/-- Whatever happens, an iteration that has ended did so before, or its body ends it now. -/
theorem ended_of_happens (sound : RunView.Sound plan s.view) (happens : Happens plan body s t)
    (member : .ended vu iteration fault ∈ t.world.laps) :
    .ended vu iteration fault ∈ s.world.laps ∨ LastTurn plan body s vu iteration fault t := by
  have before (untouched : Untouched s.world t.world) :
      .ended vu iteration fault ∈ s.world.laps := by
    have same : t.world.laps = s.world.laps := congrArg Books.laps untouched.books
    rwa [same] at member
  cases part_of_happens plan body happens with
  | nobody remarks supervisor crew => exact .inl (before remarks.untouched)
  | director command duty world supervisor crew =>
    exact .inl (before (world ▸ untouched_duty plan duty))
  | user i w found active world supervisor crew turn =>
    subst turn
    rcases ended_stride (stride_turn plan body found active) member with
      past | ⟨client, number, stage, inside, ends, rfl, rfl⟩
    · exact .inl past
    · -- The place of a worker is the number of its user.
      have fits := sound.users i
      rw [mem_roster.mpr ⟨w, found, rfl, rfl⟩] at fits
      obtain ⟨vu, -⟩ := fits
      have state : w.state = ⟨i, .inside client number stage⟩ := by
        rw [← inside, ← vu]
      rw [vu]
      exact .inr (.turn found active state ends)

/-- At every point of a session, the iterations that have ended are those whose bodies have finished
or failed, each with that fault. -/
theorem ended_iff_lastTurn {tasks : List Task} (once : tasks.count .run ≤ 1)
    {transport : Http.Transport τ} {now : τ}
    (reaches : Reaches plan body (initial tasks transport now) s) :
    .ended vu iteration fault ∈ s.world.laps ↔
      ∃ a b, Reaches plan body (initial tasks transport now) a ∧
        LastTurn plan body a vu iteration fault b ∧ Reaches plan body b s := by
  constructor
  · intro member
    -- By induction on the course: the last thing that happened is the turn, or it was there before.
    induction reaches with
    | refl => cases member
    | @tail a b earlier happens ih =>
      have sound := sound_reaches plan body tasks once transport now a earlier
      rcases ended_of_happens sound happens member with past | last
      · obtain ⟨c, d, first, last, later⟩ := ih past
        exact ⟨c, d, first, last, later.tail happens⟩
      · exact ⟨a, b, earlier, last, .refl⟩
  · rintro ⟨a, b, -, last, later⟩
    refine mem_laps_of_reaches later ?_
    rw [last.laps]
    exact .head _

end Ended

/-! ### The accounts -/

/-- What the result of a run and its summary say of the iterations of a world. -/
structure Accounts (plan : Plan τ) (w : World τ) (result : RunResult τ) (summary : Summary τ) :
    Prop where
  /-- It counts the iterations that returned. -/
  returned : summary.iterations = (Lap.settled w.laps).countP (·.2.isNone)
  /-- It counts the iterations that failed by an ordinary fault. -/
  failed : summary.iterationErrors = (Lap.faults w.laps).length
  /-- It counts their faults by name. -/
  byType : ∀ name, summary.errorsByType.find? name =
    if (Lap.faults w.laps).countP (·.name = name) = 0 then none
    else some ((Lap.faults w.laps).countP (·.name = name) : Int)
  /-- No number is settled twice. -/
  distinct : ((Lap.settled w.laps).map Prod.fst).Nodup
  /-- The other claimed iterations are the last ones of their users, who did not settle them. -/
  balance : (w.claimed : Int) = summary.iterations + summary.iterationErrors +
    (List.range (min plan.options.vus plan.options.iterations)).countP
      fun vu : Nat => (Lap.unsettled vu w.laps).isSome
  /-- The run is interrupted unless every planned iteration was settled. -/
  interrupted : result.interrupted = false ↔
    ∀ number < plan.options.iterations, ∃ vu fault,
      Lap.ended vu number fault ∈ w.laps ∧ Lap.settles fault = true
  covered : (w.claimed : Int) ≤ summary.iterations + summary.iterationErrors + result.vus

section

variable [Scalar τ] (plan : Plan τ) (body : Body τ β)

/-- Whatever happens, at most one report is made, and a result is that of the world before. -/
theorem reports_of_happens {a b : RunState τ β} (happens : Happens plan body a b) :
    b.supervisor.reports = a.supervisor.reports ∨
      ∃ report, b.supervisor.reports = report :: a.supervisor.reports ∧
        ∀ result, report.ending = .result result → Completes plan a.world report result := by
  cases changes_of_happens plan body happens with
  | quiet untouched stop supervisor crew => exact .inl (congrArg _ supervisor)
  | strode i user found stage outcome stride stop supervisor crew =>
    exact .inl (congrArg _ supervisor)
  | hired tasks reports untouched stop crew => exact .inl reports
  | directed tasks phase reports untouched stop crew => exact reports

/-- Every report was made at some point of the session, and no later one takes it back. -/
theorem report_made {s t : RunState τ β} (empty : s.supervisor.reports = [])
    (reaches : Reaches plan body s t) {report : Report τ}
    (member : report ∈ t.supervisor.reports) :
    ∃ a b, Reaches plan body s a ∧ Happens plan body a b ∧ Reaches plan body b t ∧
      b.supervisor.reports = report :: a.supervisor.reports ∧
      ∀ result, report.ending = .result result → Completes plan a.world report result := by
  -- By induction on the course: a report that was there before was made before.
  induction reaches with
  | refl =>
    rw [empty] at member
    cases member
  | @tail a b earlier happens ih =>
    have before (member : report ∈ a.supervisor.reports) :
        ∃ a' b', Reaches plan body s a' ∧ Happens plan body a' b' ∧ Reaches plan body b' b ∧
          b'.supervisor.reports = report :: a'.supervisor.reports ∧
          ∀ result, report.ending = .result result → Completes plan a'.world report result := by
      obtain ⟨a', b', first, made, later, reports, completes⟩ := ih member
      exact ⟨a', b', first, made, later.tail happens, reports, completes⟩
    rcases reports_of_happens plan body happens with same | ⟨latest, more, completes⟩
    · exact before (same ▸ member)
    · rw [more] at member
      rcases List.mem_cons.mp member with rfl | member
      · exact ⟨a, b, earlier, happens, .refl, more, completes⟩
      · exact before member

/-- A summary that is taken of a sound session accounts for its numbers. -/
theorem accounts_of_sound {w : World τ} {crew : List (VirtualUser τ β × Option Outcome)}
    {tasks : List Task} (sound : Sound plan w.books crew tasks) {report : Report τ}
    {result : RunResult τ} (completes : Completes plan w report result) :
    Accounts plan w result (w.collector.summarize result.duration) := by
  -- The collector counts what the laps settle, and what they began is settled or left over.
  have claimed : w.claimed = (Lap.begun w.laps).length := sound.claimed
  have counted : w.collector.iterations = (Lap.settled w.laps).countP (·.2.isNone) := sound.counted
  have blamed : w.collector.iterationErrors = Collector.blame (Lap.faults w.laps) := sound.blamed
  have errors : w.collector.errorCount = (Lap.faults w.laps).length := by
    rw [Collector.errorCount, blamed, Collector.sum_blame]
  have settled : w.collector.iterations + w.collector.errorCount = (Lap.settled w.laps).length := by
    rw [counted, errors, Lap.length_settled]
  have orderly : Lap.Orderly (min plan.options.vus plan.options.iterations) w.laps := sound.orderly
  have begun := orderly.length_begun
  rw [Lap.length_leftOver] at begun
  have users : (List.range (min plan.options.vus plan.options.iterations)).countP
      (fun vu : Nat => (Lap.unsettled vu w.laps).isSome) ≤
        min plan.options.vus plan.options.iterations :=
    List.countP_le_length.trans_eq List.length_range
  have balance : (w.claimed : Int) = w.collector.iterations + w.collector.errorCount +
      (List.range (min plan.options.vus plan.options.iterations)).countP
        fun vu : Nat => (Lap.unsettled vu w.laps).isSome := by
    rw [claimed]
    omega
  refine ⟨congrArg _ counted, congrArg _ errors, ?_, orderly.settled_nodup, balance, ?_, ?_⟩
  · -- What is blamed on a name is found under it in the summary.
    intro name
    have found := Assoc.find?_map (fun n : Nat => (n : Int)) w.collector.iterationErrors name
    rw [blamed, Collector.find?_blame] at found
    refine (congrArg (fun m => Assoc.find? (List.map (fun entry => (entry.1, (entry.2 : Int))) m)
      name) blamed).trans (found.trans ?_)
    split <;> rfl
  · have bound : (Lap.begun w.laps).length ≤ plan.options.iterations := claimed ▸ sound.bound
    have all := orderly.settled_all_iff bound
    rw [completes.interrupted, decide_eq_false_iff_not, Int.not_lt]
    -- The run is not interrupted just if as many iterations are settled as there are numbers.
    have enough : (plan.options.iterations : Int) ≤
        (w.collector.iterations : Int) + w.collector.errorCount ↔
        plan.options.iterations ≤ (Lap.settled w.laps).length := by omega
    rw [enough, all]
    refine forall₂_congr ?_
    intro number below
    constructor
    · intro member
      obtain ⟨⟨_, fault⟩, settled, rfl⟩ := List.mem_map.mp member
      obtain ⟨settles, vu, ended⟩ := Lap.mem_settled.mp settled
      exact ⟨vu, fault, ended, settles⟩
    · rintro ⟨vu, fault, ended, settles⟩
      exact List.mem_map.mpr ⟨_, Lap.mem_settled.mpr ⟨settles, vu, ended⟩, rfl⟩
  · rw [completes.vus]
    change (w.claimed : Int) ≤ (w.collector.iterations : Int) + w.collector.errorCount + _
    omega

/-- Whenever a run gives a result, its summary accounts for all numbers that were claimed when it
was taken; and the iterations that it counts ended as their bodies did. -/
theorem accounts_of_reaches (tasks : List Task) (once : tasks.count .run ≤ 1)
    (transport : Http.Transport τ) (now : τ) (s : RunState τ β)
    (reaches : Reaches plan body (initial tasks transport now) s) (report : Report τ)
    (member : report ∈ s.supervisor.reports) (result : RunResult τ)
    (ending : report.ending = .result result) :
    ∃ (a b : RunState τ β) (summary : Summary τ),
      Reaches plan body (initial tasks transport now) a ∧ Happens plan body a b ∧
      Reaches plan body b s ∧ b.supervisor.reports = report :: a.supervisor.reports ∧
      report.claimed = a.world.claimed ∧ result.summary = some summary ∧
      summary = a.world.collector.summarize result.duration ∧
      Accounts plan a.world result summary ∧
      ∀ vu iteration fault, .ended vu iteration fault ∈ a.world.laps ↔
        ∃ c d, Reaches plan body (initial tasks transport now) c ∧
          LastTurn plan body c vu iteration fault d ∧ Reaches plan body d a := by
  obtain ⟨a, b, first, made, later, reports, completes⟩ :=
    report_made plan body rfl reaches member
  have complete := completes result ending
  have sound : Sound plan a.world.books (roster a.view.crew) a.supervisor.tasks :=
    sound_reaches plan body tasks once transport now a first
  exact ⟨a, b, _, first, made, later, reports, complete.claimed, complete.summary, rfl,
    accounts_of_sound plan sound complete, fun _ _ _ => ended_iff_lastTurn once first⟩

/-- The small session gives a result that accounts for its three numbers. -/
theorem accounts_sample : ∃ report ∈ (Sample.after 40).supervisor.reports, ∃ result,
    report.ending = .result result ∧ report.claimed = 3 ∧
      ∃ (a : RunState Rat (Script.State Rat)) (summary : Summary Rat),
        Reaches Sample.plan Sample.body (initial [.run] {} 0) a ∧
          report.claimed = a.world.claimed ∧ result.summary = some summary ∧
          Accounts Sample.plan a.world result summary := by
  have gives : ((Sample.after 40).supervisor.reports.any fun report =>
      decide (report.claimed = 3) && match report.ending with
        | .result _ => true
        | _ => false) = true := by decide +kernel
  obtain ⟨report, member, holds⟩ := List.any_eq_true.mp gives
  obtain ⟨claimed, ends⟩ := Bool.and_eq_true_iff.mp holds
  cases ending : report.ending with
  | result result =>
    obtain ⟨a, -, summary, first, -, -, -, same, taken, -, accounts, -⟩ :=
      accounts_of_reaches Sample.plan Sample.body [.run] (by decide) {} 0 _
        (Sample.reaches 40) report member result ending
    exact ⟨report, member, result, ending, of_decide_eq_true claimed, a, summary, first, same,
      taken, accounts⟩
  | _ => simp [ending] at ends

end

end Run

end Volley
