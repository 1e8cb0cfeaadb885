import Volley.Proofs.Run.Duties
import Volley.Proofs.Run.Stopping

/-!
# Whose turn it is

A turn of a user leaves alone what belongs to the director: the crew, the handlers of signals and
the lifecycle, which it may only take from running to stopping. It writes into the history, but the
iterations that end in it end now, and it dismisses nobody. The director does its duties. What else
can happen to a session leaves all but the lifecycle and the handlers as they are.

## Main definitions

- `Run.Event.ByUser`: an event that a user may write.
- `Run.Stops`: what a user may make of the lifecycle.
- `Run.Writes`: what a turn of a user does to the world.
- `Run.Part`: whose turn it was.

## Main results

- `writes_work`: every turn of a user does no more than that.
- `part_of_happens`: whatever happens is the turn of a user, or of the director, or neither.
-/

namespace Volley

namespace Http

/-- The faults that a transport has in store for its sessions. -/
def Transport.plans {τ : Type} (t : Transport τ) : FaultPlan × FaultPlan :=
  (t.connectFault, t.closeFault)

section Plans

variable {τ : Type}

/-- Which openings fail is not changed by an opening. -/
theorem plans_enter (c : Client τ) (t : Transport τ) : (c.enter t).2.plans = t.plans := by
  unfold Client.enter Transport.connect
  dsimp only
  split
  next entered =>
    split at entered <;> cases entered
    rfl
  next entered =>
    split at entered <;> cases entered
    rfl

/-- Nor is it by an exit. -/
theorem plans_exit (c : Client τ) (t : Transport τ) : (c.exit t).2.plans = t.plans := by
  unfold Client.exit
  split
  · rfl
  · split
    next closed => exact congrArg (fun closed => closed.2.plans) closed.symm
    next closed => exact congrArg (fun closed => closed.2.plans) closed.symm

/-- Nor is it by a request. -/
theorem plans_send (c : Client τ) (t : Transport τ) (now : τ) (path : String) (headers : Headers)
    (name : Option String) : (c.send t now path headers name).2.plans = t.plans := by
  unfold Client.send
  split <;> rfl

end Plans

end Http

namespace Run

open Http Pool

variable {τ β : Type}

/-- An event that a user may write at a time: it dismisses nobody, and an iteration that ends does
so at that time. -/
def Event.ByUser (now : τ) : Event τ → Prop
  | .dismissed _ _ => False
  | .ended _ _ time _ => time = now
  | _ => True

/-- What may become of a lifecycle without a signal and without the director. -/
def Stops (a b : Lifecycle) : Prop :=
  b = a ∨ a = .running ∧ b = .stopping

/-- A request to stop does no more to the lifecycle than a user may. -/
theorem stops_requestStop (w : World τ) : Stops w.lifecycle w.requestStop.2.lifecycle := by
  rcases requestStop_cases w with ⟨running, -, stopping⟩ | ⟨-, refused⟩
  · exact .inr ⟨running, stopping⟩
  · rw [refused]
    exact .inl rfl

/-- What a turn of a user does to the world at most. -/
structure Writes (now : τ) (w w' : World τ) : Prop where
  crew : w'.crew = w.crew
  handling : w'.handling = w.handling
  plans : w'.transport.plans = w.transport.plans
  lifecycle : Stops w.lifecycle w'.lifecycle
  history : ∃ latest, w'.history = latest ++ w.history ∧ ∀ event ∈ latest, event.ByUser now

section Writing

variable {now : τ}

theorem Writes.refl (w : World τ) : Writes now w w :=
  ⟨rfl, rfl, rfl, .inl rfl, [], rfl, nofun⟩

theorem Writes.trans {w w' w'' : World τ} (first : Writes now w w') (second : Writes now w' w'') :
    Writes now w w'' := by
  refine ⟨second.crew.trans first.crew, second.handling.trans first.handling,
    second.plans.trans first.plans, ?_, ?_⟩
  · rcases second.lifecycle with same | ⟨running, stopping⟩
    · exact same ▸ first.lifecycle
    · -- What is running now was running before.
      rcases first.lifecycle with same | ⟨-, other⟩
      · exact .inr ⟨same ▸ running, stopping⟩
      · rw [other] at running
        cases running
  · obtain ⟨latest, wrote, mine⟩ := first.history
    obtain ⟨latest', wrote', mine'⟩ := second.history
    refine ⟨latest' ++ latest, by rw [wrote', wrote, List.append_assoc], ?_⟩
    intro event member
    exact (List.mem_append.mp member).elim (mine' event) (mine event)

theorem writes_record (w : World τ) {event : Event τ} (mine : event.ByUser now) :
    Writes now w (w.record event) :=
  ⟨rfl, rfl, rfl, .inl rfl, [event], rfl, by simpa using mine⟩

theorem writes_log (w : World τ) (entry : Journal.Entry τ) : Writes now w (w.log entry) :=
  writes_record w trivial

theorem writes_collector (w : World τ) (collector : Collector τ) :
    Writes now w { w with collector } :=
  ⟨rfl, rfl, rfl, .inl rfl, [], rfl, nofun⟩

theorem writes_transport (w : World τ) {transport : Transport τ}
    (plans : transport.plans = w.transport.plans) : Writes now w { w with transport } :=
  ⟨rfl, rfl, plans, .inl rfl, [], rfl, nofun⟩

theorem writes_foldl {α : Type} (f : World τ → α → World τ) (kept : ∀ w a, Writes now w (f w a))
    (xs : List α) (w : World τ) : Writes now w (xs.foldl f w) := by
  apply List.foldlRecOn (motive := Writes now w) xs f (.refl w)
  intro w' before a _
  exact before.trans (kept w' a)

theorem writes_note (w : World τ) (vu : Int) (time : τ) (notes : List Note) :
    Writes now w (w.note vu time notes) :=
  writes_foldl _ (fun w _ => writes_record w (by trivial)) notes w

theorem writes_requestStop (w : World τ) : Writes now w w.requestStop.2 := by
  unfold World.requestStop
  split
  next running =>
    exact (writes_log w _).trans ⟨rfl, rfl, rfl, .inr ⟨running, rfl⟩, [], rfl, nofun⟩
  · exact .refl w

/-- What follows an answer is counted at most. -/
theorem writes_follow (w : World τ) (state : β) (progress : Progress τ) :
    Writes now w (Iteration.follow w state progress).world := by
  unfold Iteration.follow
  split
  · exact .refl w
  · dsimp only
    split <;> exact writes_collector w _

theorem writes_recordChecks (w : World τ) (report : Checks.Report) :
    Writes now w (Iteration.recordChecks w report) := by
  have remarked : Writes now w
      (report.raised.foldl (fun w label => w.log (.checkRaised label)) w) :=
    writes_foldl _ (fun w label => writes_log w _) report.raised w
  -- Each result is counted and told.
  refine remarked.trans (writes_foldl _ ?_ report.delivered _)
  intro w result
  exact (writes_collector w _).trans (writes_record _ trivial)

variable [Scalar τ]

/-- A move writes no more than a user may. -/
theorem writes_perform (client : Client τ) (iteration : Int) (g : Glance τ) (w : World τ)
    (state : β) (move : Move τ) :
    Writes now w (Iteration.perform client iteration g w state move).world := by
  -- Only a request, a check and a stop change the world.
  unfold Iteration.perform
  cases move with
  | get path headers name =>
    have plans := plans_send client w.transport g.now path headers name
    dsimp only
    split
    next fault transport sent =>
      rw [sent] at plans
      exact writes_transport w plans
    next flight transport sent =>
      rw [sent] at plans
      exact ((writes_transport w plans).trans (writes_record _ (by trivial))).trans
        (writes_follow _ _ _)
  | check subject checks =>
    dsimp only
    split <;> exact writes_recordChecks w _
  | stop => exact writes_requestStop w
  | _ => exact .refl w

/-- A step of an iteration writes no more than a user may. -/
theorem writes_step (body : Body τ β) (client : Client τ) (iteration : Int) (g : Glance τ)
    (w : World τ) (stage : Iteration.Stage τ β) (wake : Wake) :
    Writes now w (Iteration.step body client iteration g w stage wake).world := by
  unfold Iteration.step
  split
  · exact (writes_note w _ _ _).trans (writes_perform _ _ _ _ _ _)
  · exact .refl w
  · exact .refl w
  · exact writes_follow w _ _
  · exact writes_follow w _ _

omit [Scalar τ] in
/-- Who leaves exits its client and tells it. -/
theorem writes_leave (user : VirtualUser τ β) (w : World τ) (client : Client τ)
    (outcome : Outcome) : Writes now w (user.leave w client outcome).world :=
  (writes_transport w (plans_exit client w.transport)).trans (writes_record _ trivial)

omit [Scalar τ] in
/-- Who enters connects, and begins to work if it can. -/
theorem writes_enter (plan : Plan τ) (w : World τ) (user : VirtualUser τ β) :
    Writes now w (VirtualUser.enter plan w user).world := by
  have plans := plans_enter (Client.make "" plan.headers user.vu plan.requestTimeout) w.transport
  unfold VirtualUser.enter
  dsimp only
  split
  next fault transport entered =>
    rw [entered] at plans
    exact writes_transport w plans
  next opened transport entered =>
    rw [entered] at plans
    exact (writes_transport w plans).trans (writes_record _ trivial)

omit [Scalar τ] in
/-- A number that is claimed is told as begun. -/
theorem writes_claim (plan : Plan τ) (body : Body τ β) (g : Glance τ) (w : World τ)
    (user : VirtualUser τ β) (client : Client τ) :
    Writes now w (VirtualUser.claim plan body g w user client).world := by
  unfold VirtualUser.claim
  split
  · exact writes_leave user w client _
  · unfold World.claim
    by_cases free : w.claimed < plan.options.iterations
    · rw [if_pos free]
      have claimed : Writes now w { w with claimed := w.claimed + 1 } :=
        ⟨rfl, rfl, rfl, .inl rfl, [], rfl, nofun⟩
      exact claimed.trans (writes_record _ (by trivial))
    · rw [if_neg free]
      exact writes_leave user w client _

omit [Scalar τ] in
/-- An iteration that ends is told as ended now. -/
theorem writes_conclude (g : Glance τ) (w : World τ) (user : VirtualUser τ β) (client : Client τ)
    (iteration : Nat) (fault : Option Fault) :
    Writes g.now w (VirtualUser.conclude g w user client iteration fault).world := by
  have ended : Writes g.now w (w.record (.ended user.vu iteration g.now fault)) :=
    writes_record w rfl
  unfold VirtualUser.conclude
  split
  · exact ended.trans (writes_collector _ _)
  · split
    · exact (ended.trans (writes_collector _ _)).trans (writes_log _ _)
    · exact ended.trans (writes_leave user _ client _)

/-- A turn of a user writes no more than it may. -/
theorem writes_work (plan : Plan τ) (body : Body τ β) (g : Glance τ) (w : World τ)
    (user : VirtualUser τ β) (wake : Wake) :
    Writes g.now w (VirtualUser.work plan body g w user wake).world := by
  -- The stages in the order in which a user passes them.
  unfold VirtualUser.work
  split
  · cases wake with
    | dismissed => exact .refl w
    | elapsed => exact writes_enter plan w user
  next client stage =>
    cases wake with
    | dismissed => exact writes_leave user w client _
    | elapsed => exact writes_claim plan body g w user client
  next client iteration stage inside =>
    have stepped : Writes g.now w (Iteration.step body client iteration g w stage wake).world :=
      writes_step body client iteration g w stage wake
    dsimp only
    split
    · exact stepped
    · exact stepped.trans (writes_conclude g _ user client iteration _)
  · exact .refl w

end Writing

/-! ### Whatever happens -/

/-- A signal is logged, and the lifecycle is set. -/
theorem remarks_signalled (now : τ) (w : World τ) : Remarks now [] w w.signalled :=
  (remarks_log w .signalReceived).trans (remarks_lifecycle _ .stopping)

theorem remarks_giveUp (now : τ) (plan : Plan τ) (w : World τ) (d : Director τ) :
    Remarks now [] w (Director.giveUp plan w d) := by
  unfold Director.giveUp
  split
  · exact remarks_removeHandlers plan w
  · exact remarks_removeHandlers plan w
  all_goals exact .refl w

variable [Scalar τ] (plan : Plan τ) (body : Body τ β)

/-- What a worker does in its turn. -/
abbrev turnOf (s : RunState τ β) (w : Worker (VirtualUser τ β)) : VirtualUser.UserTurn τ β :=
  VirtualUser.work plan body s.glance s.world w.state
    (if w.dismissed then .dismissed else .elapsed)

/-- Whose turn it was, and what came of it. -/
inductive Part (s t : RunState τ β) : Prop
  | nobody (remarks : Remarks s.now [] s.world t.world) (supervisor : t.supervisor = s.supervisor)
      (crew : roster t.view.crew = roster s.view.crew)
  | user (i : Nat) (w : Worker (VirtualUser τ β)) (found : s.workers[i]? = some w)
      (active : w.outcome? = none) (world : t.world = (turnOf plan body s w).world)
      (supervisor : t.supervisor = s.supervisor)
      (crew : roster t.view.crew = (roster s.view.crew).set i
        ((turnOf plan body s w).state, (turnOf plan body s w).pause.outcome?))
      (turn : t = runWorker (system plan body) s i)
  | director (command : Director.RunCommand τ β)
      (duty : Duty plan s.glance s.world s.supervisor command) (world : t.world = command.world)
      (supervisor : t.supervisor = command.state)
      (crew : roster t.view.crew =
        roster s.view.crew ++ command.hire.map fun user => (user, none))

/-- What a turn of a worker makes of the world. -/
theorem world_runWorker {s : RunState τ β} {i : Nat} {w : Worker (VirtualUser τ β)}
    (found : s.workers[i]? = some w) (active : w.outcome? = none) :
    (runWorker (system plan body) s i).world = (turnOf plan body s w).world :=
  congrArg View.world (view_runWorker (system plan body) s i w found active)

/-- What a turn of a worker makes of the roster. -/
theorem roster_runWorker {s : RunState τ β} {i : Nat} {w : Worker (VirtualUser τ β)}
    (found : s.workers[i]? = some w) (active : w.outcome? = none) :
    roster (runWorker (system plan body) s i).view.crew = (roster s.view.crew).set i
      ((turnOf plan body s w).state, (turnOf plan body s w).pause.outcome?) := by
  rw [view_runWorker (system plan body) s i w found active]
  simp only [roster, View.afterTurn, List.map_set]
  rfl

/-- A user keeps its number in every turn. -/
theorem state_turnOf (s : RunState τ β) (w : Worker (VirtualUser τ β)) :
    (turnOf plan body s w).state =
      { w.state with stage := (turnOf plan body s w).state.stage } := by
  obtain ⟨vu, -⟩ := stride_work plan body s.glance s.world w.state
    (if w.dismissed then .dismissed else .elapsed)
  dsimp only
  rw [← vu]

/-- Nobody's turn leaves world and supervisor as they are. -/
theorem part_of_same {s t : RunState τ β} (world : t.world = s.world)
    (supervisor : t.supervisor = s.supervisor)
    (crew : roster t.view.crew = roster s.view.crew) : Part plan body s t :=
  .nobody (world ▸ .refl _) supervisor crew

/-- What is not seen is nobody's turn. -/
theorem part_of_view {s t : RunState τ β} (same : t.view = s.view) : Part plan body s t :=
  part_of_same plan body (congrArg View.world same) (congrArg View.supervisor same)
    (congrArg (fun v => roster v.crew) same)

/-- Every move is the turn of a user, or of the director, or of nobody. -/
theorem part_of_moves {s t : RunState τ β} (moves : Moves (system plan body) s t) :
    Part plan body s t := by
  cases moves with
  | reschedule same => exact part_of_view plan body same
  | worker i w found active =>
    have view := view_runWorker (system plan body) s i w found active
    exact .user i w found active (world_runWorker plan body found active)
      (congrArg View.supervisor view) (roster_runWorker plan body found active) rfl
  | supervisor working =>
    cases dismissed : s.givenUp with
    | true =>
      -- A director that was given up only takes its handlers away.
      have view := view_runSupervisor_of_givenUp (system plan body) s dismissed
      have world : (runSupervisor (system plan body) s).world =
          Director.giveUp plan s.world s.supervisor := congrArg View.world view
      exact .nobody (world ▸ remarks_giveUp s.now plan s.world s.supervisor)
        (congrArg View.supervisor view) (congrArg (fun v => roster v.crew) view)
    | false =>
      have view := view_runSupervisor (system plan body) s dismissed working
      refine .director _ (duty_supervise plan s.supervisor s.glance) (congrArg View.world view)
        (congrArg View.supervisor view) ?_
      rw [view]
      simp only [View.afterCommand, roster_foldl_dismissAt]
      simp [roster, fresh, Function.comp_def, system]
  | @interrupt before taken =>
    have view := view_runInterrupt (system plan body) before
    have world : before.world = s.world := congrArg View.world taken.symm
    have signalled : (runInterrupt (system plan body) before).world = s.world.signalled :=
      (congrArg View.world view).trans (congrArg World.signalled world)
    refine .nobody (signalled ▸ remarks_signalled s.now s.world)
      ((congrArg View.supervisor view).trans (congrArg View.supervisor taken.symm)) ?_
    rw [view, taken]

/-- Whatever happens is the turn of a user, or of the director, or of nobody. -/
theorem part_of_happens {s t : RunState τ β} (happens : Happens plan body s t) :
    Part plan body s t := by
  cases happens with
  | moved moves => exact part_of_moves plan body moves
  | signalled handled => exact part_of_same plan body rfl rfl rfl
  | asked =>
    have view := view_askToStop s
    have world : (askToStop s).world = s.world.requestStop.2 := congrArg View.world view
    exact .nobody (world ▸ remarks_requestStop s.now s.world) (congrArg View.supervisor view)
      (congrArg (fun v => roster v.crew) view)
  | dismissed i =>
    have view := s.view_dismiss i
    refine part_of_same plan body (congrArg View.world view) (congrArg View.supervisor view) ?_
    rw [view]
    exact roster_dismissAt _ i
  | givenUp =>
    have view := s.view_dismissSupervisor
    split at view
    · exact part_of_view plan body view
    · exact part_of_same plan body (congrArg View.world view) (congrArg View.supervisor view)
        (congrArg (fun v => roster v.crew) view)

/-- What is no turn of a user leaves the books and the transport alone, writes what the director
may, and hires only users that have not entered. -/
theorem aside_of_happens {s t : RunState τ β} (happens : Happens plan body s t)
    (noTurn : ∀ i w, s.workers[i]? = some w → w.outcome? = none →
      t ≠ runWorker (system plan body) s i) :
    Untouched s.world t.world ∧
    (∃ dismissed latest, t.world.history = latest ++ s.world.history ∧
      ∀ event ∈ latest, event.ByDirector s.now dismissed) ∧
    ∃ hired : List (VirtualUser τ β), (∀ user ∈ hired, user.stage = .outside) ∧
      roster t.view.crew = roster s.view.crew ++ hired.map fun user => (user, none) := by
  cases part_of_happens plan body happens with
  | nobody remarks supervisor crew =>
    exact ⟨remarks.untouched, ⟨[], remarks.history⟩, [], List.forall_mem_nil _,
      crew.trans (List.append_nil _).symm⟩
  | user i w found active world supervisor crew turn => exact absurd turn (noTurn i w found active)
  | director command duty world supervisor crew =>
    rw [world]
    exact ⟨untouched_duty plan duty, ⟨command.dismiss, history_duty plan duty⟩, command.hire,
      outside_of_duty plan duty, crew⟩

section History

variable {plan body} {s t : RunState τ β}

/-- What has happened stays in the history. -/
theorem mem_history_of_happens (happens : Happens plan body s t) {event : Event τ}
    (member : event ∈ s.world.history) : event ∈ t.world.history := by
  have grown {latest : List (Event τ)} (history : t.world.history = latest ++ s.world.history) :
      event ∈ t.world.history := by
    rw [history]
    exact List.mem_append_right _ member
  cases part_of_happens plan body happens with
  | nobody remarks supervisor crew =>
    obtain ⟨latest, history, -⟩ := remarks.history
    exact grown history
  | user i w found active world supervisor crew =>
    have wrote : Writes s.now s.world (turnOf plan body s w).world :=
      writes_work plan body s.glance s.world w.state _
    rw [← world] at wrote
    obtain ⟨latest, history, -⟩ := wrote.history
    exact grown history
  | director command duty world supervisor crew =>
    obtain ⟨latest, history, -⟩ := history_duty plan duty
    rw [← world] at history
    exact grown history

/-- It stays there for the rest of the session. -/
theorem mem_history_of_reaches (reaches : Reaches plan body s t) {event : Event τ}
    (member : event ∈ s.world.history) : event ∈ t.world.history := by
  induction reaches with
  | refl => exact member
  | tail _ happens ih => exact mem_history_of_happens happens ih

/-- So do the laps, which are read off the history. -/
theorem mem_laps_of_reaches (reaches : Reaches plan body s t) {lap : Lap}
    (member : lap ∈ s.world.laps) : lap ∈ t.world.laps := by
  obtain ⟨event, past, same⟩ := List.mem_filterMap.mp member
  exact List.mem_filterMap.mpr ⟨event, mem_history_of_reaches reaches past, same⟩

end History

end Run

end Volley
