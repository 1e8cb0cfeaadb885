import Volley.Proofs.Pool.View
import Volley.Proofs.Run.Laps
import Volley.Run.VirtualUser

/-!
# The books of a run

The books of a run are what it knows about its iterations: how many numbers are claimed, which
iterations began and ended, and what the collector counted of them. Users write into them when they
begin and end an iteration; what a body does in between does not show there.

## Main definitions

- `Run.Books`, `Run.World.books`.
- `Run.Untouched`: the books, the collector and the transport are as before.
- `Run.Stride`: what a turn of a user does to its stage and to the books.

## Main results

- `books_step`: a step inside an iteration leaves the books alone.
- `stride_work`: every turn of a user is a stride.
-/

namespace Volley

namespace Run

open Http Pool

/-- What a run knows about its iterations. -/
structure Books where
  claimed : Nat
  laps : List Lap
  returns : Nat
  errors : Assoc String Nat

/-- The books of a world. -/
def World.books {τ : Type} (w : World τ) : Books :=
  { claimed := w.claimed
    laps := w.laps
    returns := w.collector.iterations
    errors := w.collector.iterationErrors }

namespace Books

/-- A user takes the next number. -/
def begin (b : Books) (vu : Nat) : Books :=
  { b with claimed := b.claimed + 1, laps := .began vu b.claimed :: b.laps }

/-- An iteration ends by a fault that is not ordinary, and is not counted. -/
def abort (b : Books) (vu iteration : Nat) (fault : Fault) : Books :=
  { b with laps := .ended vu iteration (some fault) :: b.laps }

/-- An iteration ends and is counted, with its fault if it failed. -/
def settle (b : Books) (vu iteration : Nat) (fault : Option Fault) : Books :=
  { b with
    laps := .ended vu iteration fault :: b.laps
    returns := if fault.isNone then b.returns + 1 else b.returns
    errors := match fault with
      | none => b.errors
      | some f => b.errors.update f.name 0 (· + 1) }

end Books

section World

variable {τ : Type}

/-- A fold keeps what each of its steps keeps. -/
theorem foldl_kept {α ν : Type} (part : World τ → ν) (f : World τ → α → World τ)
    (kept : ∀ w a, part (f w a) = part w) (xs : List α) (w : World τ) :
    part (xs.foldl f w) = part w := by
  apply List.foldlRecOn (motive := fun w' => part w' = part w) xs f rfl
  intro w' same a _
  exact (kept w' a).trans same

/-- Of all events only beginnings and ends are laps. -/
theorem laps_record (w : World τ) (event : Event τ) (other : event.lap? = none) :
    (w.record event).laps = w.laps := by
  simp [World.record, World.laps, other]

theorem books_record (w : World τ) (event : Event τ) (other : event.lap? = none) :
    (w.record event).books = w.books := by
  simp only [World.books, laps_record w event other]
  rfl

@[simp] theorem books_log (w : World τ) (entry : Journal.Entry τ) : (w.log entry).books = w.books :=
  books_record w _ rfl

theorem books_note (w : World τ) (vu : Int) (time : τ) (notes : List Note) :
    (w.note vu time notes).books = w.books := by
  apply foldl_kept
  intro w note
  exact books_record w _ rfl

/-- The books, the collector and the transport are as before. -/
structure Untouched (w w' : World τ) : Prop where
  books : w'.books = w.books
  collector : w'.collector = w.collector
  transport : w'.transport = w.transport

theorem Untouched.refl (w : World τ) : Untouched w w :=
  ⟨rfl, rfl, rfl⟩

theorem Untouched.trans {w w' w'' : World τ} (first : Untouched w w') (second : Untouched w' w'') :
    Untouched w w'' :=
  ⟨second.books.trans first.books, second.collector.trans first.collector,
    second.transport.trans first.transport⟩

theorem untouched_record (w : World τ) (event : Event τ) (other : event.lap? = none) :
    Untouched w (w.record event) :=
  ⟨books_record w event other, rfl, rfl⟩

theorem untouched_log (w : World τ) (entry : Journal.Entry τ) : Untouched w (w.log entry) :=
  untouched_record w _ rfl

theorem untouched_foldl {α : Type} (f : World τ → α → World τ)
    (kept : ∀ w a, Untouched w (f w a)) (xs : List α) (w : World τ) :
    Untouched w (xs.foldl f w) := by
  apply List.foldlRecOn (motive := Untouched w) xs f (.refl w)
  intro w' before a _
  exact before.trans (kept w' a)

theorem untouched_lifecycle (w : World τ) (lifecycle : Lifecycle) :
    Untouched w { w with lifecycle } :=
  ⟨rfl, rfl, rfl⟩

theorem untouched_changeHandlers (w : World τ) (installed : Bool) :
    Untouched w (w.changeHandlers installed) := by
  have handled : Untouched w { w with handling := installed } := ⟨rfl, rfl, rfl⟩
  apply handled.trans
  apply untouched_foldl
  intro w signal
  exact untouched_record w _ rfl

/-- A request to stop is accepted while the run is on, and changes nothing else. -/
theorem requestStop_cases (w : World τ) :
    w.lifecycle = .running ∧ w.requestStop.1 = true ∧ w.requestStop.2.lifecycle = .stopping ∨
      w.lifecycle ≠ .running ∧ w.requestStop = (false, w) := by
  unfold World.requestStop
  split
  next running => exact .inl ⟨running, rfl, rfl⟩
  next other => exact .inr ⟨other, rfl⟩

/-- What raises the flag was accepted. -/
theorem accepted_of_requestStop {w : World τ} (raised : w.requestStop.1 = true) :
    w.lifecycle = .running ∧ w.requestStop.2.lifecycle = .stopping := by
  rcases requestStop_cases w with ⟨running, -, stopping⟩ | ⟨-, refused⟩
  · exact ⟨running, stopping⟩
  · rw [refused] at raised
    cases raised

theorem untouched_requestStop (w : World τ) : Untouched w w.requestStop.2 := by
  unfold World.requestStop
  split
  · exact (untouched_log w _).trans (untouched_lifecycle _ .stopping)
  · exact .refl w

theorem untouched_signalled (w : World τ) : Untouched w w.signalled :=
  (untouched_log w .signalReceived).trans (untouched_lifecycle _ .stopping)

end World

section Iteration

variable {τ β : Type}

/-- What follows an answer is no matter of the books. -/
theorem books_follow (w : World τ) (state : β) (progress : Progress τ) :
    (Iteration.follow w state progress).world.books = w.books := by
  unfold Iteration.follow
  split
  · rfl
  · split <;> rfl

/-- Neither are checks, counted and told. -/
theorem books_recordChecks (w : World τ) (report : Checks.Report) :
    (Iteration.recordChecks w report).books = w.books := by
  unfold Iteration.recordChecks
  have counted (w : World τ) (result : CheckResult) :
      ({ w with collector := w.collector.recordCheck result }.record (.checked result)).books =
        w.books := books_record _ _ rfl
  have remarked (w : World τ) (label : String) : (w.log (.checkRaised label)).books = w.books :=
    books_log w _
  exact (foldl_kept _ _ counted _ _).trans (foldl_kept _ _ remarked _ w)

/-- No move shows in the books. -/
theorem books_perform [Scalar τ] (client : Client τ) (iteration : Int) (g : Glance τ) (w : World τ)
    (state : β) (move : Move τ) :
    (Iteration.perform client iteration g w state move).world.books = w.books := by
  unfold Iteration.perform
  split
  · rfl
  · rfl
  · split
    · rfl
    · exact (books_follow _ _ _).trans (books_record _ _ rfl)
  · dsimp only
    split <;> exact books_recordChecks w _
  · rfl
  · rfl
  · exact (untouched_requestStop w).books
  · rfl
  · rfl

/-- What a body does in its iteration does not show in the books. -/
theorem books_step [Scalar τ] (body : Body τ β) (client : Client τ) (iteration : Int) (g : Glance τ)
    (w : World τ) (stage : Iteration.Stage τ β) (wake : Wake) :
    (Iteration.step body client iteration g w stage wake).world.books = w.books := by
  unfold Iteration.step
  split
  · exact (books_perform _ _ _ _ _ _).trans (books_note _ _ _ _)
  · rfl
  · rfl
  · exact books_follow _ _ _
  · exact books_follow _ _ _

end Iteration

/-- Where the body of an iteration ends it: it answers its cue by finishing, or by failing with this
fault. -/
inductive Iteration.Stage.Ends {τ β : Type} (body : Body τ β) :
    Iteration.Stage τ β → Option Fault → Prop
  | finishes {state : β} {cue : Cue} (move : (body.respond state cue).move = .finish) :
      Ends body (.cued state cue) none
  | fails {state : β} {cue : Cue} {fault : Fault}
      (move : (body.respond state cue).move = .fail fault) :
      Ends body (.cued state cue) (some fault)

/-- What a turn of a user does: how its stage, the books and its outcome change. -/
inductive Stride {τ β : Type} (body : Body τ β) (iterations : Nat) (stop : Bool) (vu : Nat)
    (before : Books) : VirtualUser.Stage τ β → VirtualUser.Stage τ β → Books → Option Outcome → Prop
  | refused (fault : Fault) :
      Stride body iterations stop vu before .outside .gone before (some (.failed fault))
  | opened (client : Client τ) :
      Stride body iterations stop vu before .outside (.between client) before none
  /-- It leaves in the ordinary way only when it is told to, or when all numbers are taken. -/
  | left (client : Client τ) (outcome : Outcome)
      (reason : outcome = .returned → stop = true ∨ iterations ≤ before.claimed) :
      Stride body iterations stop vu before (.between client) .gone before (some outcome)
  | began (client : Client τ) (lowered : stop = false) (free : before.claimed < iterations) :
      Stride body iterations stop vu before (.between client)
        (.inside client before.claimed (.cued (body.start vu before.claimed) .began))
        (before.begin vu) none
  | continued (client : Client τ) (iteration : Nat) (stage next : Iteration.Stage τ β)
      (onward : ∀ fault, ¬ stage.Ends body fault) :
      Stride body iterations stop vu before (.inside client iteration stage)
        (.inside client iteration next) before none
  | settled (client : Client τ) (iteration : Nat) (stage : Iteration.Stage τ β)
      (fault : Option Fault) (settles : Lap.settles fault = true) (ends : stage.Ends body fault) :
      Stride body iterations stop vu before (.inside client iteration stage) (.between client)
        (before.settle vu iteration fault) none
  | aborted (client : Client τ) (iteration : Nat) (stage : Iteration.Stage τ β)
      (fault last : Fault) (aborts : fault.isOrdinary = false)
      (ends : stage.Ends body (some fault)) :
      Stride body iterations stop vu before (.inside client iteration stage) .gone
        (before.abort vu iteration fault) (some (.failed last))
  | idle : Stride body iterations stop vu before .gone .gone before (some .returned)

section Turns

variable {τ β : Type}

/-- Whoever waits for a response has not ended, and neither has who gets it. -/
theorem outcome_follow (w : World τ) (state : β) (progress : Progress τ)
    (stage : Iteration.Stage τ β) (pause : Pause τ)
    (goes : (Iteration.follow w state progress).next = .going stage pause) :
    pause.outcome? = none := by
  unfold Iteration.follow at goes
  split at goes
  · cases goes; rfl
  · split at goes <;> cases goes <;> rfl

/-- A move after which the iteration goes on does not end the worker. -/
theorem outcome_perform [Scalar τ] (client : Client τ) (iteration : Int) (g : Glance τ)
    (w : World τ) (state : β) (move : Move τ) (next : Iteration.Stage τ β) (pause : Pause τ)
    (goes : (Iteration.perform client iteration g w state move).next = .going next pause) :
    pause.outcome? = none := by
  unfold Iteration.perform at goes
  split at goes
  · cases goes
  · cases goes
  · split at goes
    · cases goes; rfl
    · exact outcome_follow _ _ _ _ _ goes
  · dsimp only at goes
    split at goes <;> cases goes <;> rfl
  all_goals cases goes; rfl

/-- As long as its iteration goes on the worker does. -/
theorem outcome_step [Scalar τ] (body : Body τ β) (client : Client τ) (iteration : Int)
    (g : Glance τ) (w : World τ) (stage next : Iteration.Stage τ β) (wake : Wake) (pause : Pause τ)
    (goes : (Iteration.step body client iteration g w stage wake).next = .going next pause) :
    pause.outcome? = none := by
  unfold Iteration.step at goes
  split at goes
  · exact outcome_perform _ _ _ _ _ _ _ _ goes
  · cases goes; rfl
  · cases goes; rfl
  · exact outcome_follow _ _ _ _ _ goes
  · exact outcome_follow _ _ _ _ _ goes

/-- An answer comes back to the body, whatever it is. -/
theorem ne_ended_follow (w : World τ) (state : β) (progress : Progress τ) (fault : Option Fault) :
    (Iteration.follow w state progress).next ≠ .ended fault := by
  intro ended
  unfold Iteration.follow at ended
  split at ended
  · cases ended
  · split at ended <;> cases ended

/-- Of all moves only two are an end; the others come back to the body as a cue. -/
theorem ended_perform [Scalar τ] {client : Client τ} {iteration : Int} {g : Glance τ} {w : World τ}
    {state : β} {move : Move τ} {fault : Option Fault}
    (ended : (Iteration.perform client iteration g w state move).next = .ended fault) :
    move = .finish ∧ fault = none ∨ ∃ f, move = .fail f ∧ fault = some f := by
  unfold Iteration.perform at ended
  cases move with
  | finish =>
    cases ended
    exact .inl ⟨rfl, rfl⟩
  | fail f =>
    cases ended
    exact .inr ⟨f, rfl, rfl⟩
  | get path headers name =>
    dsimp only at ended
    split at ended
    · cases ended
    · exact absurd ended (ne_ended_follow _ _ _ _)
  | check subject checks =>
    dsimp only at ended
    split at ended <;> cases ended
  | _ => cases ended

/-- An iteration ends where its body ends it, and nowhere else. -/
theorem ended_iff [Scalar τ] (body : Body τ β) (client : Client τ) (iteration : Int) (g : Glance τ)
    (w : World τ) (stage : Iteration.Stage τ β) (wake : Wake) (fault : Option Fault) :
    (Iteration.step body client iteration g w stage wake).next = .ended fault ↔
      stage.Ends body fault := by
  constructor
  · -- Where the body is not asked nothing ends, as every pause comes back to it.
    intro ended
    unfold Iteration.step at ended
    split at ended
    · rcases ended_perform ended with ⟨move, rfl⟩ | ⟨f, move, rfl⟩
      · exact .finishes move
      · exact .fails move
    · cases ended
    · cases ended
    · exact absurd ended (ne_ended_follow _ _ _ _)
    · exact absurd ended (ne_ended_follow _ _ _ _)
  · rintro (move | move) <;> simp [Iteration.step, Iteration.perform, move]

/-- On its way out a user does not write into the books, and a fault of closing its client takes
the place of its outcome. -/
theorem leave_eq (user : VirtualUser τ β) (w : World τ) (client : Client τ) (outcome : Outcome) :
    (user.leave w client outcome).world.books = w.books ∧
      (user.leave w client outcome).state = { user with stage := .gone } ∧
      ((user.leave w client outcome).pause = .finish outcome ∨
        ∃ fault, (user.leave w client outcome).pause = .finish (.failed fault)) := by
  unfold VirtualUser.leave
  split
  next closed transport exited =>
    refine ⟨books_record _ _ rfl, rfl, ?_⟩
    cases closed with
    | ok client' => exact .inl rfl
    | error fault => exact .inr ⟨fault, rfl⟩

/-- A user leaves for a reason that its outcome calls for, or by the fault of closing. -/
theorem stride_leave (body : Body τ β) (iterations : Nat) (stop : Bool) (user : VirtualUser τ β)
    (w : World τ) (client : Client τ) (outcome : Outcome)
    (reason : outcome = .returned → stop = true ∨ iterations ≤ w.claimed) :
    (user.leave w client outcome).state.vu = user.vu ∧
      Stride body iterations stop user.vu w.books (.between client)
        (user.leave w client outcome).state.stage (user.leave w client outcome).world.books
        (user.leave w client outcome).pause.outcome? := by
  obtain ⟨same, state, ended⟩ := leave_eq user w client outcome
  rw [same, state]
  refine ⟨rfl, ?_⟩
  rcases ended with pause | ⟨fault, pause⟩
  · rw [pause]
    exact .left client outcome reason
  · rw [pause]
    exact .left client (.failed fault) nofun

/-- A user that is told to leave, or finds that all numbers are taken, leaves; else it begins. -/
theorem stride_claim (plan : Plan τ) (body : Body τ β) (g : Glance τ) (w : World τ)
    (user : VirtualUser τ β) (client : Client τ) :
    let turn := VirtualUser.claim plan body g w user client
    turn.state.vu = user.vu ∧
      Stride body plan.options.iterations g.stop user.vu w.books (.between client) turn.state.stage
        turn.world.books turn.pause.outcome? := by
  -- Both ways out are the same; only their reasons differ.
  have leaves (reason : g.stop = true ∨ plan.options.iterations ≤ w.claimed) :=
    stride_leave body plan.options.iterations g.stop user w client .returned fun _ => reason
  unfold VirtualUser.claim
  split
  next told => exact leaves (.inl told)
  next untold =>
    have lowered : g.stop = false := by simpa using untold
    unfold World.claim
    by_cases free : w.claimed < plan.options.iterations
    · rw [if_pos free, lowered]
      exact ⟨rfl, .began client rfl free⟩
    · rw [if_neg free]
      exact leaves (.inr (Nat.le_of_not_lt free))

/-- An iteration that has ended is settled, or its user leaves. -/
theorem stride_conclude (body : Body τ β) (iterations : Nat) (g : Glance τ) (w : World τ)
    (user : VirtualUser τ β) (client : Client τ) (iteration : Nat) {stage : Iteration.Stage τ β}
    {fault : Option Fault} (ends : stage.Ends body fault) :
    let turn := VirtualUser.conclude g w user client iteration fault
    turn.state.vu = user.vu ∧
      Stride body iterations g.stop user.vu w.books (.inside client iteration stage)
        turn.state.stage turn.world.books turn.pause.outcome? := by
  unfold VirtualUser.conclude
  cases fault with
  | none => exact ⟨rfl, .settled client iteration stage none rfl ends⟩
  | some f =>
    by_cases ordinary : f.isOrdinary = true
    · dsimp only
      rw [if_pos ordinary]
      refine ⟨rfl, ?_⟩
      dsimp only
      rw [books_log]
      exact .settled client iteration stage (some f) ordinary ends
    · dsimp only
      rw [if_neg ordinary]
      -- The fault goes on to the worker unless closing the client fails too, which takes its place.
      obtain ⟨same, state, ended⟩ := leave_eq user
        (w.record (.ended user.vu iteration g.now (some f))) client (.failed f)
      rw [same, state]
      refine ⟨rfl, ?_⟩
      have aborts : f.isOrdinary = false := by simpa using ordinary
      rcases ended with pause | ⟨last, pause⟩
      · rw [pause]
        exact .aborted client iteration stage f f aborts ends
      · rw [pause]
        exact .aborted client iteration stage f last aborts ends

/-- Every turn of a user is a stride. -/
theorem stride_work [Scalar τ] (plan : Plan τ) (body : Body τ β) (g : Glance τ) (w : World τ)
    (user : VirtualUser τ β) (wake : Wake) :
    let turn := VirtualUser.work plan body g w user wake
    turn.state.vu = user.vu ∧
      Stride body plan.options.iterations g.stop user.vu w.books user.stage turn.state.stage
        turn.world.books turn.pause.outcome? := by
  unfold VirtualUser.work
  split
  next stage =>
    rw [stage]
    cases wake with
    | dismissed => exact ⟨rfl, .refused _⟩
    | elapsed =>
      dsimp only [VirtualUser.enter]
      split
      · -- It does not connect, or it does.
        exact ⟨rfl, .refused _⟩
      next opened transport entered =>
        refine ⟨rfl, ?_⟩
        rw [books_record _ _ rfl]
        exact .opened opened
  next client stage =>
    rw [stage]
    cases wake with
    | dismissed =>
      exact stride_leave body _ _ user w client (.failed .cancelled) nofun
    | elapsed => exact stride_claim plan body g w user client
  next client iteration inner stage =>
    rw [stage]
    -- Inside an iteration the books change only with its end.
    have same := books_step body client iteration g w inner wake
    dsimp only
    split
    next next pause goes =>
      have open_ := outcome_step body client iteration g w inner next wake pause goes
      refine ⟨rfl, ?_⟩
      dsimp only
      rw [same, open_]
      -- If the body ended the iteration here, the step would not go on.
      refine .continued client iteration inner next fun fault ends => ?_
      cases goes.symm.trans ((ended_iff body client iteration g w inner wake fault).mpr ends)
    next fault ended =>
      rw [← same]
      exact stride_conclude body _ g _ user client iteration
        ((ended_iff body client iteration g w inner wake fault).mp ended)
  next stage =>
    rw [stage]
    exact ⟨rfl, by rw [stage]; exact .idle⟩

end Turns

end Run

end Volley
