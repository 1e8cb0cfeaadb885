import Volley.Proofs.Run.Books
import Volley.Proofs.Run.Sequence

/-!
# The pace of a user

A user whose bodies yield what they are known to yield owes, at every point of an iteration, the
checks that its body has still to make. Each of its turns records the first of them, perhaps none,
and owes the others; between iterations it owes nothing. It raises no flag, and ends in the ordinary
way only, as long as its client opens and closes and nobody dismisses it.

## Main definitions

- `Run.Owes`: the checks that a user has still to make.
- `Run.Paced`: what a turn of such a user does.

## Main results

- `paced_work`: every turn of a user that is not dismissed is paced.
-/

namespace Volley

namespace Run

open Http Pool

variable {τ β : Type}

/-- Every session of a transport opens and closes. -/
structure Faultless (t : Http.Transport τ) : Prop where
  connects : ∀ session, t.connectFault session = none
  closes : ∀ session, t.closeFault session = none

namespace Faultless

variable {t : Http.Transport τ}

theorem planned_connect (faultless : Faultless t) (session : Nat) :
    Http.Transport.planned t.connectFault session = none :=
  congrArg (Option.map Fault.leaving) (faultless.connects session)

theorem planned_close (faultless : Faultless t) (session : Nat) :
    Http.Transport.planned t.closeFault session = none :=
  congrArg (Option.map Fault.leaving) (faultless.closes session)

end Faultless

def World.seen (w : World τ) : List (String × Bool) :=
  w.collector.checks.map CheckResult.seen

/-- The crew of the run and the plans of the transport are as before. -/
structure Held (w w' : World τ) : Prop where
  crew : w'.crew = w.crew
  faultless : Faultless w.transport → Faultless w'.transport

theorem Held.refl (w : World τ) : Held w w :=
  ⟨rfl, id⟩

theorem Held.trans {w w' w'' : World τ} (first : Held w w') (second : Held w' w'') : Held w w'' :=
  ⟨second.crew.trans first.crew, second.faultless ∘ first.faultless⟩

theorem held_foldl {α : Type} (f : World τ → α → World τ) (kept : ∀ w a, Held w (f w a))
    (xs : List α) (w : World τ) : Held w (xs.foldl f w) := by
  apply List.foldlRecOn (motive := Held w) xs f (.refl w)
  intro w' before a _
  exact before.trans (kept w' a)

theorem held_note (w : World τ) (vu : Int) (time : τ) (notes : List Note) :
    Held w (w.note vu time notes) :=
  held_foldl (fun w note => w.record (.noted vu time note)) (fun _ _ => ⟨rfl, id⟩) notes w

theorem seen_note (w : World τ) (vu : Int) (time : τ) (notes : List Note) :
    -- Notes go to the history, which is not where checks are.
    (w.note vu time notes).seen = w.seen := by
  apply foldl_kept World.seen
  intro w note
  rfl

/-! ### Inside an iteration -/

/-- The checks that an iteration has still to make. -/
inductive Iteration.Owes (body : Body τ β) (fault : Option Fault) :
    Iteration.Stage τ β → List (String × Bool) → Prop
  | cued {state : β} {cue : Cue} {rest : List (String × Bool)}
      (yields : Yields body state cue rest fault) : Iteration.Owes body fault (.cued state cue) rest
  | resting {state : β} {rest : List (String × Bool)}
      (yields : Yields body state .rested rest fault) :
      Iteration.Owes body fault (.resting state) rest
  | requesting {state : β} {flight : Flight τ} {rest : List (String × Bool)}
      (answered : ∀ response, Yields body state (.answered response) rest fault)
      (faulted : ∀ f, Yields body state (.faulted f) rest fault) :
      Iteration.Owes body fault (.requesting state flight) rest

/-- An iteration that owed these checks goes on: it makes the first of them and owes the others, or
it ends as it is known to. -/
structure Onward (body : Body τ β) (fault : Option Fault) (w : World τ)
    (rest : List (String × Bool)) (effect : Iteration.Effect τ β) : Prop where
  lowered : effect.stop = false
  silent : effect.interrupt = false
  held : Held w effect.world
  next : (∃ stage pause rest', effect.next = .going stage pause ∧
      Iteration.Owes body fault stage rest' ∧ effect.world.seen ++ rest' = w.seen ++ rest) ∨
    effect.next = .ended fault ∧ rest = [] ∧ effect.world.seen = w.seen

section Iteration

variable {body : Body τ β} {fault : Option Fault} {state : β} {rest : List (String × Bool)}

theorem onward_cue {w w' : World τ} {cue : Cue} (held : Held w w') (seen : w'.seen = w.seen)
    (yields : Yields body state cue rest fault) :
    Onward body fault w rest (Iteration.cue w' state cue) :=
  ⟨rfl, rfl, held, .inl ⟨_, _, rest, rfl, .cued yields, by rw [← seen]; rfl⟩⟩

theorem onward_follow {w w' : World τ} {progress : Progress τ} (held : Held w w')
    (seen : w'.seen = w.seen)
    (answered : ∀ response, Yields body state (.answered response) rest fault)
    (faulted : ∀ f, Yields body state (.faulted f) rest fault) :
    Onward body fault w rest (Iteration.follow w' state progress) := by
  unfold Iteration.follow
  -- The body waits for a response, or has one already, or a fault in place of it.
  split
  · exact ⟨rfl, rfl, held,
      .inl ⟨_, _, rest, rfl, .requesting answered faulted, by rw [← seen]⟩⟩
  · dsimp only
    split
    · exact onward_cue (held.trans ⟨rfl, id⟩) seen (answered _)
    · exact onward_cue (held.trans ⟨rfl, id⟩) seen (faulted _)

theorem faultless_send [Scalar τ] (client : Client τ) (t : Http.Transport τ) (now : τ)
    (path : String) (headers : Headers) (name : Option String) (faultless : Faultless t) :
    Faultless (client.send t now path headers name).2 := by
  -- Sending writes to a session; the plans of the transport are no part of one.
  unfold Client.send
  split
  · exact faultless
  · exact ⟨faultless.connects, faultless.closes⟩

theorem held_recordChecks (w : World τ) (report : Checks.Report) :
    Held w (Iteration.recordChecks w report) ∧
      (Iteration.recordChecks w report).seen = w.seen ++ seenOf report := by
  have remarked (labels : List String) (w : World τ) :
      (labels.foldl (fun w label => w.log (.checkRaised label)) w).seen = w.seen := by
    apply foldl_kept World.seen
    intro w label
    rfl
  -- Checks that raised leave a remark only, and those that were made are seen in their order.
  have made (results : List CheckResult) (w : World τ) :
      (results.foldl (fun w result =>
        { w with collector := w.collector.recordCheck result }.record (.checked result)) w).seen =
          w.seen ++ results.map CheckResult.seen := by
    induction results generalizing w with
    | nil => simp
    | cons result rest ih =>
      rw [List.foldl_cons, ih]
      simp [World.seen, World.record, Collector.recordCheck]
  have held := (held_foldl (fun w label => w.log (.checkRaised label))
    (fun _ _ => ⟨rfl, id⟩) report.raised w).trans
    (held_foldl (fun w result =>
      { w with collector := w.collector.recordCheck result }.record (.checked result))
      (fun _ _ => ⟨rfl, id⟩) report.delivered _)
  refine ⟨held, (made _ _).trans ?_⟩
  rw [remarked]
  rfl

theorem onward_perform [Scalar τ] (client : Client τ) (iteration : Int) (g : Glance τ)
    (w : World τ) {cue : Cue} (yields : Yields body state cue rest fault) :
    Onward body fault w rest (Iteration.perform client iteration g w
      (body.respond state cue).state (body.respond state cue).move) := by
  cases yields with
  | finish move =>
    rw [move]
    exact ⟨rfl, rfl, .refl w, .inr ⟨rfl, rfl, rfl⟩⟩
  | fail move ordinary =>
    rw [move]
    exact ⟨rfl, rfl, .refl w, .inr ⟨rfl, rfl, rfl⟩⟩
  | @check _ _ subject checks rest _ move next =>
    rw [move]
    -- The checks are known as user zero makes them in iteration zero; who makes them does not show.
    have alike := alike_evaluate subject 0 0 client.vu iteration checks
    obtain ⟨held, seen⟩ := held_recordChecks w
      (Checks.evaluate Checks.receiveAll subject client.vu iteration checks)
    have told : Yields body (body.respond state cue).state
        (toldOf (Checks.evaluate Checks.receiveAll subject client.vu iteration checks)) rest
        fault := by
      rw [toldOf, ← alike.outcome]
      exact next
    rw [alike.seen]
    have made : (Iteration.recordChecks w (Checks.evaluate Checks.receiveAll subject client.vu
        iteration checks)).seen ++ rest = w.seen ++ (seenOf (Checks.evaluate Checks.receiveAll
          subject client.vu iteration checks) ++ rest) := by
      rw [seen, List.append_assoc]
    unfold Iteration.perform toldOf at *
    dsimp only
    split
    next passed outcome =>
      rw [outcome] at told
      exact ⟨rfl, rfl, held, .inl ⟨_, _, rest, rfl, .cued told, made⟩⟩
    next f outcome =>
      rw [outcome] at told
      exact ⟨rfl, rfl, held, .inl ⟨_, _, rest, rfl, .cued told, made⟩⟩
  | sleep move next =>
    rw [move]
    exact ⟨rfl, rfl, .refl w, .inl ⟨_, _, rest, rfl, .resting next, rfl⟩⟩
  | @get _ _ path headers name _ _ move answered faulted =>
    rw [move]
    -- A request may fail at once, for instance without a session; the body yields the same then.
    have faultless := faultless_send client w.transport g.now path headers name
    unfold Iteration.perform
    dsimp only
    split
    next transport sent =>
      rw [sent] at faultless
      exact onward_cue ⟨rfl, faultless⟩ rfl (faulted _)
    next transport sent =>
      rw [sent] at faultless
      exact onward_follow ⟨rfl, faultless⟩ rfl answered faulted
  | look move next =>
    rw [move]
    exact onward_cue (.refl w) rfl (next _ _ _)

theorem onward_step [Scalar τ] (client : Client τ) (iteration : Int) (g : Glance τ) (w : World τ)
    {stage : Iteration.Stage τ β} (owes : Iteration.Owes body fault stage rest) :
    Onward body fault w rest (Iteration.step body client iteration g w stage .elapsed) := by
  cases owes with
  | @cued state cue _ yields =>
    -- Its notes are written down before the move, which makes no checks.
    have seen := seen_note w client.vu g.now (body.respond state cue).notes
    obtain ⟨lowered, silent, held, next⟩ := onward_perform client iteration g
      (w.note client.vu g.now (body.respond state cue).notes) yields
    refine ⟨lowered, silent, (held_note _ _ _ _).trans held, ?_⟩
    rw [seen] at next
    exact next
  | resting yields => exact onward_cue (.refl w) rfl yields
  | requesting answered faulted => exact onward_follow (.refl w) rfl answered faulted

end Iteration

/-! ### Turns of a user -/

/-- The checks that a user has still to make. -/
inductive Owes (body : Body τ β) (yield : Nat → Yield) :
    VirtualUser.Stage τ β → List (String × Bool) → Prop
  | outside : Owes body yield .outside []
  | between (client : Client τ) : Owes body yield (.between client) []
  | inside {client : Client τ} {iteration : Nat} {stage : Iteration.Stage τ β}
      {rest : List (String × Bool)}
      (owes : Iteration.Owes body (yield iteration).fault stage rest) :
      Owes body yield (.inside client iteration stage) rest
  | gone : Owes body yield .gone []

/-- Bodies yield what they are known to yield, in every iteration that a plan has. -/
def Known (plan : Plan τ) (body : Body τ β) (yield : Nat → Yield) : Prop :=
  ∀ vu iteration : Nat, iteration < plan.options.iterations →
    Yields body (body.start vu iteration) .began (yield iteration).checks (yield iteration).fault

/-- A user that owed these checks takes a turn: it makes the first of them and owes the others, or
it claims the next number and owes what that yields. -/
structure Paced (body : Body τ β) (yield : Nat → Yield) (w : World τ) (rest : List (String × Bool))
    (turn : VirtualUser.UserTurn τ β) : Prop where
  lowered : turn.stop = false
  silent : turn.interrupt = false
  held : Held w turn.world
  outcome : turn.pause.outcome? = none ∨ turn.pause.outcome? = some .returned
  owes : ∃ rest', Owes body yield turn.state.stage rest' ∧
    (turn.world.claimed = w.claimed ∧ turn.world.seen ++ rest' = w.seen ++ rest ∨
      turn.world.claimed = w.claimed + 1 ∧ turn.world.seen = w.seen ∧ rest = [] ∧
        rest' = (yield w.claimed).checks)
  settled : ∀ entry ∈ Lap.settled turn.world.laps, entry ∈ Lap.settled w.laps ∨
    ∃ n : Nat, entry = ((n : Int), (yield n).fault)

section Turns

variable {body : Body τ β} {yield : Nat → Yield}

theorem leave_of_faultless (user : VirtualUser τ β) (w : World τ) (client : Client τ)
    (outcome : Outcome) (faultless : Faultless w.transport) :
    Held w (user.leave w client outcome).world ∧
      (user.leave w client outcome).pause = .finish outcome := by
  -- A session that was opened closes without a fault; without a session there is nothing to close.
  unfold VirtualUser.leave Client.exit
  cases client.session with
  | none => exact ⟨⟨rfl, id⟩, rfl⟩
  | some number =>
    simp only [Http.Transport.close, faultless.planned_close]
    exact ⟨⟨rfl, fun f => ⟨f.connects, f.closes⟩⟩, trivial⟩

theorem paced_leave (user : VirtualUser τ β) (w : World τ) (client : Client τ)
    (faultless : Faultless w.transport) :
    Paced body yield w [] (user.leave w client .returned) := by
  obtain ⟨held, pause⟩ := leave_of_faultless user w client .returned faultless
  obtain ⟨books, state, -⟩ := leave_eq user w client .returned
  refine ⟨rfl, rfl, held, by rw [pause]; exact .inr rfl, ⟨[], by rw [state]; exact .gone,
    .inl ⟨congrArg Books.claimed books, rfl⟩⟩, fun entry member => .inl ?_⟩
  -- Leaving settles nothing, so what is settled was so before.
  have laps : (user.leave w client .returned).world.laps = w.laps := congrArg Books.laps books
  rwa [laps] at member

theorem paced_enter (plan : Plan τ) (user : VirtualUser τ β) (w : World τ)
    (faultless : Faultless w.transport) :
    Paced body yield w [] (VirtualUser.enter plan w user) := by
  -- The session is opened, so the user goes between iterations, where it owes nothing.
  unfold VirtualUser.enter Client.enter
  simp only [Http.Transport.connect, faultless.planned_connect]
  exact ⟨rfl, rfl, ⟨rfl, fun f => ⟨f.connects, f.closes⟩⟩, .inl rfl,
    ⟨[], .between _, .inl ⟨rfl, rfl⟩⟩, fun entry member => .inl member⟩

theorem paced_claim {plan : Plan τ} (known : Known plan body yield) (g : Glance τ)
    (lowered : g.stop = false) (user : VirtualUser τ β) (w : World τ) (client : Client τ)
    (faultless : Faultless w.transport) :
    Paced body yield w [] (VirtualUser.claim plan body g w user client) := by
  unfold VirtualUser.claim World.claim
  rw [if_neg (by simp [lowered])]
  -- With a number claimed the user owes what that yields.
  by_cases free : w.claimed < plan.options.iterations
  · rw [if_pos free]
    exact ⟨rfl, rfl, ⟨rfl, id⟩, .inl rfl,
      ⟨_, .inside (.cued (known user.vu w.claimed free)), .inr ⟨rfl, rfl, rfl, rfl⟩⟩,
      fun entry member => .inl member⟩
  · rw [if_neg free]
    exact paced_leave user w client faultless

theorem paced_conclude (g : Glance τ) (user : VirtualUser τ β) (w : World τ) (client : Client τ)
    (iteration : Nat) (settles : Lap.settles (yield iteration).fault = true) :
    Paced body yield w []
      (VirtualUser.conclude g w user client iteration (yield iteration).fault) := by
  -- The new entry is the known one of its iteration.
  have settled (entry : Int × Option Fault)
      (member : entry ∈ Lap.settled
        (.ended user.vu iteration (yield iteration).fault :: w.laps)) :
      entry ∈ Lap.settled w.laps ∨ ∃ n : Nat, entry = ((n : Int), (yield n).fault) := by
    simp only [Lap.settled, settles, if_true, List.mem_append, List.mem_singleton] at member
    exact member.imp_right fun same => ⟨iteration, same⟩
  unfold VirtualUser.conclude
  cases fault : (yield iteration).fault with
  | none =>
    rw [fault] at settled
    exact ⟨rfl, rfl, ⟨rfl, id⟩, .inl rfl, ⟨[], .between _, .inl ⟨rfl, rfl⟩⟩, settled⟩
  | some f =>
    rw [fault] at settled settles
    -- An ordinary fault counts as an iteration, and the user goes on.
    have ordinary : f.isOrdinary = true := settles
    dsimp only
    rw [if_pos ordinary]
    exact ⟨rfl, rfl, ⟨rfl, id⟩, .inl rfl, ⟨[], .between _, .inl ⟨rfl, rfl⟩⟩, settled⟩

theorem Iteration.Owes.settles {fault : Option Fault} {stage : Iteration.Stage τ β}
    {rest : List (String × Bool)} (owes : Iteration.Owes body fault stage rest) :
    Lap.settles fault = true := by
  -- What is owed is known with the fault that the iteration ends by, which a yield never leaves
  -- open.
  cases owes with
  | cued yields => exact yields.settles
  | resting yields => exact yields.settles
  | requesting answered faulted => exact (faulted .cancelled).settles

/-- Every turn of a user that is not dismissed, while the flag is down, is paced. -/
theorem paced_work [Scalar τ] {plan : Plan τ} (known : Known plan body yield) (g : Glance τ)
    (lowered : g.stop = false) (w : World τ) (faultless : Faultless w.transport)
    (user : VirtualUser τ β) {rest : List (String × Bool)}
    (owes : Owes body yield user.stage rest) :
    Paced body yield w rest (VirtualUser.work plan body g w user .elapsed) := by
  obtain ⟨vu, stage⟩ := user
  unfold VirtualUser.work
  cases owes with
  | outside => exact paced_enter plan _ w faultless
  | between client => exact paced_claim known g lowered _ w client faultless
  | @inside client iteration stage rest owes =>
    -- Either the iteration goes on, or it ends as it is known to and is concluded in the same turn.
    obtain ⟨still, silent, held, next⟩ := onward_step client iteration g w owes
    have books := books_step body client iteration g w stage .elapsed
    have claimed := congrArg Books.claimed books
    have laps : (Iteration.step body client iteration g w stage .elapsed).world.laps = w.laps :=
      congrArg Books.laps books
    dsimp only
    rcases next with ⟨stage', pause, rest', goes, owes', seen⟩ | ⟨ended, nothing, seen⟩
    · have open_ := outcome_step body client iteration g w stage stage' .elapsed pause goes
      rw [goes]
      refine ⟨still, silent, held, .inl open_, ⟨rest', .inside owes', .inl ⟨claimed, seen⟩⟩,
        fun entry member => .inl ?_⟩
      dsimp only at member
      rwa [laps] at member
    · rw [ended]
      dsimp only
      generalize (Iteration.step body client iteration g w stage .elapsed).world = w' at *
      have concluded : Paced body yield w' [] (VirtualUser.conclude g w'
          ⟨vu, .inside client iteration stage⟩ client iteration (yield iteration).fault) :=
        paced_conclude g _ w' client iteration owes.settles
      obtain ⟨still, silent, held', outcome, owes', settled⟩ := concluded
      rw [laps] at settled
      have claimed' : w'.claimed = w.claimed := claimed
      rw [claimed', seen] at owes'
      rw [nothing]
      exact ⟨still, silent, held.trans held', outcome, owes', settled⟩
  | gone =>
    exact ⟨rfl, rfl, .refl w, .inr rfl, ⟨[], .gone, .inl ⟨rfl, rfl⟩⟩, fun entry => .inl⟩

end Turns

end Run

end Volley
