import Mathlib.Algebra.Order.Ring.Rat
import Volley.Pool.Errand
import Volley.Proofs.Pool.Progress

/-!
# A crew is shut down in time

Whatever its workers do, a shutdown ends no later than two seconds after the time of grace, or its
workers take turns without end in no time. The stop flag is raised before anything is waited for.
Those who end by themselves in the time of grace never learn of a dismissal; whoever has not ended
when it is over is dismissed, and just once. The number of these is the answer. When it is given
everyone else has ended, and who is left has had two seconds since its dismissal. As soon as all
have ended the answer comes at once.

The workers are those of any system, so they may end, fail or ask for the stop flag at any time, and
may take a dismissal as they like. Times are those of an exact clock.

## Main definitions

- `Pool.Warden.Begins`: the turn in which a warden begins a shutdown.
- `Pool.Warden.Parted`: the time of grace has ended, and those who were left have been dismissed.
- `Pool.Warden.ShutDown`: what a shutdown has come to.
- `Pool.Warden.Phase`, `Pool.Warden.Underway`: the invariant of a shutdown.

## Main results

- `underway_step`: every step keeps the invariant.
- `shutDown_of_trail`: what holds of a shutdown at every point.
-/

namespace Volley

namespace Pool

namespace Warden

open Scalar (Exact)

variable {τ ω κ : Type}

/-- A pool of a warden and its workers. -/
abbrev Ward (τ ω κ : Type) := State τ ω (Warden τ κ) κ

/-- The warden has not begun the shutdown yet. -/
def isAhead : Warden τ κ → Bool
  | starting _ _ _ => true
  | waitingFirst _ _ => true
  | shuttingDown _ => false
  | ended _ => false

/-- The shutdown begins in the next turn of the warden. -/
def isDue : Warden τ κ → Bool
  | starting _ none _ => true
  | waitingFirst _ _ => true
  | _ => false

section

variable [Scalar τ] (work : Glance τ → ω → κ → Wake → Turn τ ω κ)

/-- The warden takes its turn in `s` and begins the shutdown. -/
structure Begins (s a : Ward τ ω κ) : Prop where
  turn : ∃ rest, s.round = .turn .supervisor :: rest
  due : s.supervisor.isDue = true
  begun : step (system work) s = some a

/-- The time of grace of a shutdown that began in `a` has ended in `c`, and the warden has dismissed
those who were left then, and nobody else. -/
structure Parted (crew : List Nat) (limit : τ) (a : Ward τ ω κ) (told : List Event)
    (s c : Ward τ ω κ) (before after : List Event) : Prop where
  waited : Trail (system work) a before c
  stage : c.supervisor = .shuttingDown (.grace crew)
  turn : ∃ rest, c.round = .turn .supervisor :: rest
  strikes : ∃ d, step (system work) c = some d ∧ Trail (system work) d after s ∧
    ∀ i ∈ c.glance.pending crew, d.view.IsDismissed i
  told : told = before ++ (c.glance.pending crew).map .dismissal ++ after
  unstruck : ∀ i, .dismissal i ∉ before ∧ .dismissal i ∉ after
  early : c.now ≤ limit
  late : c.glance.pending crew ≠ [] → c.now = limit
  others : ∀ i ∈ crew, i ∈ c.glance.pending crew ∨ s.view.hasEnded i

/-- What a shutdown of this crew has come to in `s` that began in `a` at `start`. -/
structure ShutDown (crew : List Nat) (grace start : τ) (a : Ward τ ω κ) (told : List Event)
    (s : Ward τ ω κ) : Prop where
  /-- The flag was raised before anything was waited for. -/
  raised : a.now = start ∧ a.stop = true ∧ s.stop = true
  /-- With nobody to wait for, the shutdown was over at once. -/
  nobody : crew = [] → a.attention = .finished ∧ a.supervisor = .ended 0 ∧ s = a
  /-- Nobody is dismissed in the time of grace. -/
  graceful : s.supervisor = .shuttingDown (.grace crew) →
    s.now ≤ start + grace ∧ ∀ i, .dismissal i ∉ told ∧ .turn i .dismissed ∉ told
  /-- Whoever had not ended at the end of that time was dismissed once. Nobody else was, nor learnt
  of a dismissal. -/
  parted : crew ≠ [] → s.supervisor ≠ .shuttingDown (.grace crew) → ∃ c before after,
    Parted work crew (start + grace) a told s c before after ∧
    (∀ i ∈ crew, ¬ c.view.hasEnded i → told.count (.dismissal i) = 1) ∧
    ∀ i, (i ∈ crew → c.view.hasEnded i) → .dismissal i ∉ told ∧ .turn i .dismissed ∉ told
  early : s.now ≤ start + grace + Scalar.ofNat 2
  /-- The answer is the number of dismissals, and whoever is left then has been dismissed two
  seconds ago. -/
  returned : s.attention = .finished →
    s.supervisor = .ended (told.countP Event.isDismissal) ∧
    ∀ i ∈ crew, s.view.hasEnded i ∨
      .dismissal i ∈ told ∧ s.now = start + grace + Scalar.ofNat 2
  /-- Only turns of workers without end keep the shutdown from its end, or a worker that halts the
  pool. -/
  goesOn : s.attention ≠ .finished → s.demand = none → ∀ turns, ∃ later t,
    Trail (system work) s later t ∧
    (t.attention = .finished ∨ t.demand ≠ none ∨ turns ≤ later.countP Event.isTurn)
  /-- As soon as everyone has ended the shutdown comes to its end, in no time. -/
  prompt : s.attention ≠ .finished → s.demand = none → (∀ i ∈ crew, s.view.hasEnded i) →
    ∃ t, Trail (system work) s [] t ∧ t.attention = .finished ∧ t.now = s.now

/-! ### The invariant -/

/-- A warden that has not begun the shutdown of its crew. -/
structure Ahead (crew : List κ) (grace : τ) (s : Ward τ ω κ) : Prop where
  orderly : Orderly s
  undismissed : ∀ i, ¬ s.view.IsDismissed i
  stage : (∃ waitFirst, s.supervisor = .starting crew waitFirst grace) ∧
      s.view.crew.length = 0 ∨
    s.supervisor = .waitingFirst (List.range crew.length) grace ∧
      s.view.crew.length = crew.length

/-- How far a shutdown of so many workers has come, at least one. -/
inductive Phase (n : Nat) (grace start : τ) (a : Ward τ ω κ) (told : List Event)
    (s : Ward τ ω κ) : Prop
  | grace (stage : s.supervisor = .shuttingDown (.grace (List.range n)))
      (guarded : Guarded (List.range n) (start + grace) s)
      (spared : ∀ i, .dismissal i ∉ told)
  | settling (c : Ward τ ω κ) (before after : List Event)
      (parted : Parted work (List.range n) (start + grace) a told s c before after)
      (stage : s.supervisor =
        .shuttingDown (.settling (c.glance.pending (List.range n)).length))
      (guarded : Guarded (c.glance.pending (List.range n)) (start + grace + Scalar.ofNat 2) s)
  | past (c : Ward τ ω κ) (before after : List Event)
      (parted : Parted work (List.range n) (start + grace) a told s c before after)
      (stage : s.supervisor = .ended (c.glance.pending (List.range n)).length)
      (finished : s.attention = .finished) (early : s.now ≤ start + grace + Scalar.ofNat 2)
      (last : ∀ i ∈ c.glance.pending (List.range n),
        s.view.hasEnded i ∨ s.now = start + grace + Scalar.ofNat 2)

/-- A shutdown of so many workers that began in `a` at `start`. -/
structure Underway (n : Nat) (grace start : τ) (a : Ward τ ω κ) (told : List Event)
    (s : Ward τ ω κ) : Prop where
  trail : Trail (system work) a told s
  phase : Phase work n grace start a told s
  raised : s.stop = true
  size : s.view.crew.length = n
  dismissed : ∀ i, s.view.IsDismissed i → .dismissal i ∈ told
  learnt : ∀ i, .turn i .dismissed ∈ told → .dismissal i ∈ told

end

section Steps

variable [Scalar τ] [Exact τ] {work : Glance τ → ω → κ → Wake → Turn τ ω κ} {crew : List κ}
  {n : Nat} {grace start : τ} {a s t : Ward τ ω κ} {told : List Event}

/-! ### Before the shutdown -/

omit [Scalar τ] [Exact τ] in
/-- Once the shutdown proceeds it is no longer ahead. -/
theorem not_isAhead_proceed (world : ω) (stop : Bool) (progress : Shutdown.Progress τ) :
    (proceed world stop progress : Command τ ω (Warden τ κ) κ).state.isAhead = false := by
  cases progress <;> rfl

/-- A warden that has begun the shutdown does not go back. -/
theorem isAhead_of_step (tidy : Tidy s) (inTurn : InTurn s)
    (stepped : step (system work) s = some t) (ahead : t.supervisor.isAhead = true) :
    s.supervisor.isAhead = true := by
  -- Only a turn of the warden changes its stage, and of the four stages only the first two lead
  -- to one that is ahead.
  by_cases own : ∃ rest, s.round = .turn .supervisor :: rest
  · obtain ⟨rest, round⟩ := own
    have state : t.supervisor = (supervise s.glance s.world s.supervisor).state :=
      (supervised_step tidy inTurn round stepped).supervisor
    rw [state] at ahead
    cases stage : s.supervisor with
    | starting hire waitFirst grace => rfl
    | waitingFirst crew grace => rfl
    | shuttingDown stage' =>
      rw [stage, supervise, not_isAhead_proceed] at ahead
      cases ahead
    | ended k =>
      rw [stage] at ahead
      cases ahead
  · have elsewhere := elsewhere_step tidy inTurn (fun rest round => own ⟨rest, round⟩) stepped
    rwa [elsewhere.supervisor] at ahead

/-- As long as the shutdown is still ahead, nothing has been lost for it: nobody was dismissed. -/
theorem ahead_step (ahead : Ahead crew grace s) (stepped : step (system work) s = some t)
    (still : t.supervisor.isAhead = true) : Ahead crew grace t := by
  obtain ⟨orderly, undismissed, stage⟩ := ahead
  by_cases own : ∃ rest, s.round = .turn .supervisor :: rest
  · obtain ⟨rest, round⟩ := own
    have supervised := supervised_step orderly.tidy orderly.inTurn round stepped
    have view := supervised.view
    have state : t.supervisor = (supervise s.glance s.world s.supervisor).state :=
      supervised.supervisor
    rcases stage with ⟨⟨waitFirst, stage⟩, size⟩ | ⟨stage, size⟩
    · cases waitFirst with
      | none =>
        -- It would begin at once.
        rw [stage, supervise] at state
        rw [state] at still
        dsimp only at still
        rw [not_isAhead_proceed] at still
        cases still
      | some time =>
        have command : (system work).supervise s.glance s.world s.supervisor =
            { world := s.world, state := .waitingFirst (List.range crew.length) grace,
              hire := crew, order := .sleep time } := by
          rw [stage]
          rfl
        rw [command] at view
        refine ⟨orderly.supervise round stepped ?_ ?_, ?_, .inr ⟨?_, ?_⟩⟩
        · rw [command]
          nofun
        · rw [command]
          nofun
        · intro i struck
          rw [view] at struck
          -- The command that hires the crew dismisses nobody.
          rcases View.isDismissed_of_afterCommand struck with before | listed
          · exact undismissed i before
          · cases listed
        · exact congrArg View.supervisor view
        · rw [view, View.length_afterCommand, size, Nat.zero_add]
    · -- The wait for the first failure is over, so this turn begins the shutdown.
      rw [stage, supervise] at state
      rw [state, not_isAhead_proceed] at still
      cases still
  · have other (rest : List Job) : s.round ≠ .turn .supervisor :: rest :=
      fun round => own ⟨rest, round⟩
    have elsewhere := elsewhere_step orderly.tidy orderly.inTurn other stepped
    refine ⟨orderly.elsewhere other stepped,
      fun i struck => undismissed i (elsewhere.dismissed i struck), ?_⟩
    rwa [elsewhere.supervisor, elsewhere.size]

omit [Exact τ] in
/-- The command by which the shutdown begins. -/
theorem supervise_of_due (ahead : Ahead crew grace s) (due : s.supervisor.isDue = true) :
    ∃ hire : List κ, s.view.crew.length + hire.length = crew.length ∧
      supervise s.glance s.world s.supervisor =
        { proceed s.world true (Shutdown.begin (List.range crew.length) grace) with hire } := by
  -- The crew may be hired in this very turn, when there is no wait for a first failure.
  rcases ahead.stage with ⟨⟨waitFirst, stage⟩, size⟩ | ⟨stage, size⟩
  · cases waitFirst with
    | none => exact ⟨crew, by rw [size, Nat.zero_add], by rw [stage, supervise]⟩
    | some time =>
      rw [stage] at due
      cases due
  · refine ⟨[], size, ?_⟩
    rw [stage, supervise]
    cases Shutdown.begin (List.range crew.length) grace <;> rfl

/-- A shutdown that has begun has raised the flag, and dismissed nobody. -/
theorem raised_of_begins (ahead : Ahead crew grace s) (begins : Begins work s a) :
    a.now = s.now ∧ a.stop = true ∧ a.view.crew.length = crew.length ∧
      ∀ i, ¬ a.view.IsDismissed i := by
  obtain ⟨⟨rest, round⟩, due, begun⟩ := begins
  obtain ⟨hire, size, command⟩ := supervise_of_due ahead due
  have supervised := supervised_step ahead.orderly.tidy ahead.orderly.inTurn round begun
  have command : (system work).supervise s.glance s.world s.supervisor = _ := command
  -- Whether there is somebody to wait for or not, the command raises the flag and dismisses
  -- nobody.
  have raises : ((system work).supervise s.glance s.world s.supervisor).stop = true ∧
      ((system work).supervise s.glance s.world s.supervisor).dismiss = [] := by
    rw [command, Shutdown.begin]
    split <;> exact ⟨rfl, rfl⟩
  refine ⟨supervised.now, ?_, ?_, ?_⟩
  · have stop : a.stop = (s.stop || _) := congrArg View.stop supervised.view
    rw [stop, raises.1, Bool.or_true]
  · rw [supervised.view, View.length_afterCommand, command, size]
  · intro i struck
    rw [supervised.view] at struck
    rcases View.isDismissed_of_afterCommand struck with before | listed
    · exact ahead.undismissed i before
    · rw [raises.2] at listed
      cases listed

/-- Where there is nobody to wait for, the shutdown ends in the turn in which it begins. -/
theorem finished_of_begins (nobody : crew.length = 0) (ahead : Ahead crew grace s)
    (begins : Begins work s a) : a.attention = .finished ∧ a.supervisor = .ended 0 := by
  obtain ⟨⟨rest, round⟩, due, begun⟩ := begins
  obtain ⟨hire, -, command⟩ := supervise_of_due ahead due
  have supervised := supervised_step ahead.orderly.tidy ahead.orderly.inTurn round begun
  have command : (system work).supervise s.glance s.world s.supervisor = _ := command
  rw [nobody] at command
  exact ⟨supervised.finished (by rw [command]; rfl), by
    rw [supervised.supervisor, command]
    rfl⟩

/-- The time of grace begins with the shutdown. -/
theorem underway_of_begins (nonneg : 0 ≤ grace) (some_ : crew.length ≠ 0)
    (ahead : Ahead crew grace s) (begins : Begins work s a) :
    Underway work crew.length grace s.now a [] a := by
  obtain ⟨-, stop, size', undismissed⟩ := raised_of_begins ahead begins
  obtain ⟨⟨rest, round⟩, due, begun⟩ := begins
  obtain ⟨hire, size, command⟩ := supervise_of_due ahead due
  have orderly := ahead.orderly
  have supervised := supervised_step orderly.tidy orderly.inTurn round begun
  have command : (system work).supervise s.glance s.world s.supervisor =
      { world := s.world
        state := .shuttingDown (.grace (List.range crew.length))
        hire
        stop := true
        order := .wait (List.range crew.length) (some grace) } := by
    -- With a crew that is not empty the shutdown does not end at once.
    refine Eq.trans command ?_
    rw [Shutdown.begin, if_neg (by simpa using some_)]
    rfl
  have orderly' : Orderly a := by
    refine orderly.supervise round begun ?_ ?_
    · rw [command]
      nofun
    · -- Those who are waited for are known to the pool: they are the crew.
      rw [command]
      rintro crew' limit ⟨⟩
      refine ⟨List.nodup_range, fun i member => ?_⟩
      have inside := List.mem_range.mp member
      change i < s.view.crew.length + hire.length
      omega
  refine ⟨.refl, .grace ?_ ⟨orderly', ?_⟩ (by simp), stop, size',
    fun i struck => absurd struck (undismissed i), by simp⟩
  · rw [supervised.supervisor, command]
  · exact supervised.watch _ grace (by rw [command]) nonneg

/-! ### The commands of a shutdown -/

section Commands

omit [Exact τ]

variable (g : Glance τ) (world : ω) {ids : List Nat}

/-- If nobody is left, the shutdown is over without a dismissal. -/
theorem supervise_of_none_left (left : g.pending ids = []) :
    supervise g world (.shuttingDown (.grace ids) : Warden τ κ) =
      { world, state := .ended 0, order := .finish } := by
  simp [supervise, Shutdown.resume, left, proceed]

/-- Whoever is left is dismissed, and gets two seconds. -/
theorem supervise_of_left (left : g.pending ids ≠ []) :
    supervise g world (.shuttingDown (.grace ids) : Warden τ κ) =
      { world
        state := .shuttingDown (.settling (g.pending ids).length)
        dismiss := g.pending ids
        order := .wait (g.pending ids) (some (Scalar.ofNat 2)) } := by
  simp [supervise, Shutdown.resume, left, proceed, Shutdown.settle]

/-- When these are over, too, nobody is waited for any more. -/
theorem supervise_of_settling (dismissed : Nat) :
    supervise g world (.shuttingDown (.settling dismissed) : Warden τ κ) =
      { world, state := .ended dismissed, order := .finish } :=
  rfl

end Commands

/-! ### The steps of a shutdown -/

omit [Exact τ] in
/-- What is not a dismissal does not concern those who were parted from. -/
theorem Parted.tail {ids : List Nat} {limit : τ} {c : Ward τ ω κ} {before after : List Event}
    (parted : Parted work ids limit a told s c before after) (working : s.attention ≠ .finished)
    (stepped : step (system work) s = some t)
    (unstruck : ∀ i, .dismissal i ∉ events (system work) s)
    (ended : ∀ i, s.view.hasEnded i → t.view.hasEnded i) :
    Parted work ids limit a (told ++ events (system work) s) t c before
      (after ++ events (system work) s) := by
  obtain ⟨d, strikes, goesOn, struck⟩ := parted.strikes
  refine ⟨parted.waited, parted.stage, parted.turn,
    ⟨d, strikes, goesOn.tail working stepped, struck⟩, ?_, ?_, parted.early, parted.late, ?_⟩
  · rw [parted.told, List.append_assoc]
  · intro i
    refine ⟨(parted.unstruck i).1, fun told => ?_⟩
    rcases List.mem_append.mp told with before | now
    · exact (parted.unstruck i).2 before
    · exact unstruck i now
  · intro i member
    exact (parted.others i member).imp_right (ended i)

/-- A shutdown goes on when something happens elsewhere. -/
theorem phase_of_elsewhere (phase : Phase work n grace start a told s)
    (working : s.attention ≠ .finished)
    (other : ∀ rest, s.round ≠ .turn .supervisor :: rest)
    (stepped : step (system work) s = some t) (elsewhere : Elsewhere s t) :
    Phase work n grace start a (told ++ events (system work) s) t := by
  -- A dismissal is told only in turns of the warden.
  have unstruck (i : Nat) : .dismissal i ∉ events (system work) s :=
    not_dismissal_of_elsewhere other
  cases phase with
  | past c before after parted stage finished early last => exact absurd finished working
  | grace stage guarded spared =>
    refine .grace (elsewhere.supervisor.trans stage) (guarded.elsewhere other stepped) ?_
    intro i told
    rcases List.mem_append.mp told with before | now
    · exact spared i before
    · exact unstruck i now
  | settling c before after parted stage guarded =>
    exact .settling c before _ (parted.tail working stepped unstruck elsewhere.ended)
      (elsewhere.supervisor.trans stage) (guarded.elsewhere other stepped)

/-- Where the time of grace ends, the warden dismisses those who have not ended. -/
theorem parted_of_grace (trail : Trail (system work) a told s) (size : s.view.crew.length = n)
    (stage : s.supervisor = .shuttingDown (.grace (List.range n)))
    (guarded : Guarded (List.range n) (start + grace) s) (spared : ∀ i, .dismissal i ∉ told)
    {rest : List Job} (round : s.round = .turn .supervisor :: rest)
    (stepped : step (system work) s = some t)
    (dismisses : ((system work).supervise s.glance s.world s.supervisor).dismiss =
      s.glance.pending (List.range n)) :
    Parted work (List.range n) (start + grace) a (told ++ events (system work) s) t s told [] := by
  obtain ⟨orderly, watch⟩ := guarded
  have supervised := supervised_step orderly.tidy orderly.inTurn round stepped
  refine ⟨trail, stage, ⟨rest, round⟩, ⟨t, stepped, .refl, ?_⟩, ?_, fun i => ⟨spared i, by simp⟩,
    watch.early, ?_, ?_⟩
  · -- Each of them is dismissed in this turn, since it has not ended.
    intro i left
    obtain ⟨inside, active⟩ := State.mem_pending.mp left
    rw [supervised.view]
    refine View.isDismissed_afterCommand ?_ active (dismisses ▸ left)
    rw [size]
    exact List.mem_range.mp inside
  · rw [events_of_supervisor (system work) orderly.tidy.kept round, dismisses,
      List.append_nil]
  · -- The clock is not past the limit, and somebody who is left holds it up to there.
    intro left
    exact Exact.le_antisymm _ _ watch.early (watch.limit_le_of_pending supervised.ready left)
  · -- Whoever has ended by this turn has ended after it.
    intro i member
    by_cases active : s.view.hasEnded i
    · exact .inr (supervised.ended i active)
    · exact .inl (State.mem_pending.mpr ⟨member, active⟩)

/-- The time of grace ends. -/
theorem phase_of_grace (trail : Trail (system work) a told s)
    (size : s.view.crew.length = n)
    (stage : s.supervisor = .shuttingDown (.grace (List.range n)))
    (guarded : Guarded (List.range n) (start + grace) s) (spared : ∀ i, .dismissal i ∉ told)
    {rest : List Job} (round : s.round = .turn .supervisor :: rest)
    (stepped : step (system work) s = some t) :
    Phase work n grace start a (told ++ events (system work) s) t := by
  have parted := parted_of_grace trail size stage guarded spared round stepped
  obtain ⟨orderly, watch⟩ := guarded
  have supervised := supervised_step orderly.tidy orderly.inTurn round stepped
  by_cases left : s.glance.pending (List.range n) = []
  · -- With nobody left the shutdown is over, and the second phase is empty.
    have command : (system work).supervise s.glance s.world s.supervisor = _ :=
      (congrArg _ stage).trans (supervise_of_none_left s.glance s.world left)
    have early : t.now ≤ start + grace + Scalar.ofNat 2 := by
      rw [supervised.now]
      exact Exact.le_trans _ _ _ watch.early (Exact.le_add (Exact.ofNat_nonneg 2))
    refine .past s told [] (parted (by rw [command, left])) ?_
      (supervised.finished (by rw [command])) early ?_
    · rw [supervised.supervisor, command, left]
      rfl
    · rw [left]
      exact nofun
  · have command : (system work).supervise s.glance s.world s.supervisor = _ :=
      (congrArg _ stage).trans (supervise_of_left s.glance s.world left)
    have orderly' : Orderly t := by
      refine orderly.supervise round stepped ?_ ?_
      · rw [command]
        nofun
      · rw [command]
        rintro crew' limit ⟨⟩
        refine ⟨List.nodup_range.filter _, fun i member => ?_⟩
        change i < s.view.crew.length + 0
        rw [size]
        exact List.mem_range.mp (State.mem_pending.mp member).1
    have parted := parted (by rw [command])
    -- The wait for the dismissed begins where the time of grace has ended.
    have watched := supervised.watch _ (Scalar.ofNat 2) (by rw [command]) (Exact.ofNat_nonneg 2)
    rw [parted.late left] at watched
    refine .settling s told [] parted ?_ ⟨orderly', watched⟩
    rw [supervised.supervisor, command]

/-- The dismissed have had their time, or have ended. -/
theorem phase_of_settling {c : Ward τ ω κ} {before after : List Event}
    (parted : Parted work (List.range n) (start + grace) a told s c before after)
    (stage : s.supervisor =
      .shuttingDown (.settling (c.glance.pending (List.range n)).length))
    (guarded : Guarded (c.glance.pending (List.range n)) (start + grace + Scalar.ofNat 2) s)
    {rest : List Job} (round : s.round = .turn .supervisor :: rest)
    (stepped : step (system work) s = some t) :
    Phase work n grace start a (told ++ events (system work) s) t := by
  obtain ⟨orderly, watch⟩ := guarded
  have supervised := supervised_step orderly.tidy orderly.inTurn round stepped
  have command : (system work).supervise s.glance s.world s.supervisor = _ :=
    (congrArg _ stage).trans (supervise_of_settling s.glance s.world _)
  -- This turn of the warden dismisses nobody, so the parting stays as it was told.
  have unstruck (i : Nat) : .dismissal i ∉ events (system work) s := by
    rw [events_of_supervisor (system work) orderly.tidy.kept round, command]
    exact List.not_mem_nil
  have working : s.attention ≠ .finished := by simp [supervised.ready]
  refine .past c before _ (parted.tail working stepped unstruck supervised.ended) ?_
    (supervised.finished (by rw [command])) (supervised.now ▸ watch.early) ?_
  · rw [supervised.supervisor, command]
  · intro i left
    -- A warden that is ready sees all ended or its wait over.
    rcases watch.ready supervised.ready with all | past
    · exact .inl (supervised.ended i (all i left))
    · exact .inr (supervised.now.trans (Exact.le_antisymm _ _ watch.early past))

omit [Exact τ] in
/-- A shutdown that has not ended is guarded. -/
theorem Phase.guarded (phase : Phase work n grace start a told s)
    (working : s.attention ≠ .finished) : ∃ ids limit, Guarded ids limit s := by
  cases phase with
  | past c before after parted stage finished early last => exact absurd finished working
  | grace stage guarded spared => exact ⟨_, _, guarded⟩
  | settling c before after parted stage guarded => exact ⟨_, _, guarded⟩

/-- In its turn the warden ends the shutdown, or it ends the time of grace and dismisses those who
are left. -/
theorem phase_of_supervised (underway : Underway work n grace start a told s)
    (working : s.attention ≠ .finished) {rest : List Job}
    (round : s.round = .turn .supervisor :: rest) (stepped : step (system work) s = some t) :
    Phase work n grace start a (told ++ events (system work) s) t := by
  obtain ⟨trail, phase, raised, size, dismissed, learnt⟩ := underway
  cases phase with
  | past c before after parted stage finished early last => exact absurd finished working
  | grace stage guarded spared =>
    exact phase_of_grace trail size stage guarded spared round stepped
  | settling c before after parted stage guarded =>
    exact phase_of_settling parted stage guarded round stepped

omit [Exact τ] in
/-- A warden that is shutting down hires nobody. -/
theorem hire_of_phase (phase : Phase work n grace start a told s)
    (working : s.attention ≠ .finished) :
    ((system work).supervise s.glance s.world s.supervisor).hire = [] := by
  have proceeds (progress : Shutdown.Progress τ) :
      (proceed s.world false progress : Command τ ω (Warden τ κ) κ).hire = [] := by
    cases progress <;> rfl
  change (supervise s.glance s.world s.supervisor).hire = []
  cases phase with
  | past c before after parted stage finished early last => exact absurd finished working
  | grace stage guarded spared =>
    rw [stage]
    exact proceeds _
  | settling c before after parted stage guarded =>
    rw [stage]
    exact proceeds _

/-- Every step of a shutdown keeps its invariant. -/
theorem underway_step (underway : Underway work n grace start a told s)
    (working : s.attention ≠ .finished) (stepped : step (system work) s = some t) :
    Underway work n grace start a (told ++ events (system work) s) t := by
  have trail := underway.trail.tail working stepped
  -- A worker learns of a dismissal in a turn after it, so the dismissal has been told before.
  have learnt (i : Nat) (now : .turn i .dismissed ∈ told ++ events (system work) s) :
      .dismissal i ∈ told ++ events (system work) s := by
    refine List.mem_append.mpr (.inl ?_)
    rcases List.mem_append.mp now with before | now
    · exact underway.learnt i before
    · exact underway.dismissed i (isDismissed_of_turn now)
  obtain ⟨ids, limit, ⟨⟨inTurn, tidy, -⟩, -⟩⟩ := underway.phase.guarded working
  by_cases own : ∃ rest, s.round = .turn .supervisor :: rest
  · obtain ⟨rest, round⟩ := own
    have supervised := supervised_step tidy inTurn round stepped
    have stop : t.stop = (s.stop || _) := congrArg View.stop supervised.view
    refine ⟨trail, phase_of_supervised underway working round stepped, ?_, ?_, ?_, learnt⟩
    · rw [stop, underway.raised, Bool.true_or]
    · rw [supervised.view, View.length_afterCommand, hire_of_phase underway.phase working]
      exact underway.size
    · -- Whoever is newly dismissed is told of in this very step.
      intro i struck
      rw [supervised.view] at struck
      rcases View.isDismissed_of_afterCommand struck with before | listed
      · exact List.mem_append_left _ (underway.dismissed i before)
      · refine List.mem_append_right _ ?_
        rw [events_of_supervisor (system work) tidy.kept round]
        exact List.mem_map_of_mem listed
  · have other (rest : List Job) : s.round ≠ .turn .supervisor :: rest :=
      fun round => own ⟨rest, round⟩
    have elsewhere := elsewhere_step tidy inTurn other stepped
    exact ⟨trail, phase_of_elsewhere underway.phase working other stepped elsewhere,
      elsewhere.stop underway.raised, elsewhere.size.trans underway.size,
      fun i struck => List.mem_append_left _ (underway.dismissed i (elsewhere.dismissed i struck)),
      learnt⟩

/-- The invariant of a shutdown holds as long as it goes on. -/
theorem underway_of_trail (underway : Underway work n grace start a told s) {later : List Event}
    (trail : Trail (system work) s later t) :
    Underway work n grace start a (told ++ later) t := by
  -- Induction on the trail, with one step at its end.
  induction trail with
  | refl => rwa [List.append_nil]
  | tail _ working stepped ih =>
    rw [← List.append_assoc]
    exact underway_step ih working stepped

/-! ### The end of a shutdown -/

/-- The turn of the warden is the last one unless somebody is left at the end of the time of
grace. -/
theorem finishes_of_supervised (underway : Underway work n grace start a told s)
    (working : s.attention ≠ .finished) {rest : List Job}
    (round : s.round = .turn .supervisor :: rest) (stepped : step (system work) s = some t) :
    t.attention = .finished ∧ events (system work) s = [] ∨
      (∃ i < n, ¬ s.view.hasEnded i) ∧ s.supervisor = .shuttingDown (.grace (List.range n)) ∧
        ∃ k, t.supervisor = .shuttingDown (.settling k) := by
  obtain ⟨ids, limit, ⟨⟨inTurn, tidy, -⟩, -⟩⟩ := underway.phase.guarded working
  have supervised := supervised_step tidy inTurn round stepped
  have told_ := events_of_supervisor (system work) tidy.kept round
  cases underway.phase with
  | past c before after parted stage finished early last => exact absurd finished working
  | grace stage guarded spared =>
    by_cases left : s.glance.pending (List.range n) = []
    · have command : (system work).supervise s.glance s.world s.supervisor = _ :=
        (congrArg _ stage).trans (supervise_of_none_left s.glance s.world left)
      exact .inl ⟨supervised.finished (by rw [command]), by rw [told_, command]; rfl⟩
    · have command : (system work).supervise s.glance s.world s.supervisor = _ :=
        (congrArg _ stage).trans (supervise_of_left s.glance s.world left)
      obtain ⟨i, member⟩ := List.exists_mem_of_ne_nil _ left
      obtain ⟨inside, active⟩ := State.mem_pending.mp member
      exact .inr ⟨⟨i, List.mem_range.mp inside, active⟩, stage, _, by
        rw [supervised.supervisor, command]⟩
  | settling c before after parted stage guarded =>
    have command : (system work).supervise s.glance s.world s.supervisor = _ :=
      (congrArg _ stage).trans (supervise_of_settling s.glance s.world _)
    exact .inl ⟨supervised.finished (by rw [command]), by rw [told_, command]; rfl⟩

/-- As soon as everyone has ended the warden takes its last turn, in no time. -/
theorem finishes_of_deserted (underway : Underway work n grace start a told s)
    (working : s.attention ≠ .finished) (calm : s.demand = none)
    (deserted : ∀ i < n, s.view.hasEnded i) :
    ∃ t, Trail (system work) s [] t ∧ t.attention = .finished ∧ t.now = s.now := by
  obtain ⟨ids, limit, guarded⟩ := underway.phase.guarded working
  obtain ⟨t, member, rest, trail, guarded', calm', round, elsewhere, still⟩ :=
    comes_to_turn (system work) s guarded calm
  -- Without workers that are active the clock has nothing to wait for, and stands still.
  have now := still fun i inside => deserted i (inside.trans_eq underway.size)
  have ended (i : Nat) (inside : i < n) : t.view.hasEnded i := elsewhere.ended i (deserted i inside)
  have underway' := underway_of_trail underway trail
  cases member with
  | worker i =>
    -- No worker is left that could take a turn.
    obtain ⟨w, found, ready⟩ :=
      guarded'.orderly.inTurn.worker_of_mem (i := i) (by simp [State.jobs, round])
    refine absurd (ended i ?_) (State.not_hasEnded found (outcome_of_ready ready))
    rw [← underway'.size]
    simpa [State.view] using (List.getElem?_eq_some_iff.mp found).1
  | supervisor =>
    have stepped := step_of_round (system work) t calm' round
    have supervised := supervised_step guarded'.orderly.tidy guarded'.orderly.inTurn round stepped
    rcases finishes_of_supervised underway' guarded'.working round stepped with
      ⟨finished, silent⟩ | ⟨⟨i, inside, active⟩, -⟩
    · have last := trail.tail guarded'.working stepped
      rw [silent] at last
      exact ⟨_, last, finished, supervised.now.trans now⟩
    · exact absurd (ended i inside) active

/-- A shutdown under way comes to its end, or to a turn of a worker, or from the time of grace to
the time after it. -/
theorem exists_advance (underway : Underway work n grace start a told s)
    (working : s.attention ≠ .finished) (calm : s.demand = none) :
    ∃ later t, Trail (system work) s later t ∧ (t.attention = .finished ∨
      1 ≤ later.countP Event.isTurn ∨
      (∃ ids, s.supervisor = .shuttingDown (.grace ids)) ∧
        ∃ k, t.supervisor = .shuttingDown (.settling k)) := by
  obtain ⟨ids, limit, guarded⟩ := underway.phase.guarded working
  obtain ⟨t, member, rest, trail, guarded', calm', round, elsewhere, -⟩ :=
    comes_to_turn (system work) s guarded calm
  have stepped := step_of_round (system work) t calm' round
  refine ⟨_, _, trail.tail guarded'.working stepped, ?_⟩
  cases member with
  | worker i =>
    obtain ⟨w, found, -⟩ :=
      guarded'.orderly.inTurn.worker_of_mem (i := i) (by simp [State.jobs, round])
    right
    left
    -- The turn of the worker is told, whatever it does.
    simp [events, round, found, Event.isTurn]
  | supervisor =>
    rcases finishes_of_supervised (underway_of_trail underway trail) guarded'.working round
      stepped with ⟨finished, -⟩ | ⟨-, stage, settling⟩
    · exact .inl finished
    · exact .inr (.inr ⟨⟨_, elsewhere.supervisor.symm.trans stage⟩, settling⟩)

/-- A shutdown under way comes to its end or to a turn of a worker. -/
theorem exists_turn (underway : Underway work n grace start a told s)
    (working : s.attention ≠ .finished) (calm : s.demand = none) :
    ∃ later t, Trail (system work) s later t ∧ (t.attention = .finished ∨ t.demand ≠ none ∨
      1 ≤ later.countP Event.isTurn) := by
  obtain ⟨later, t, trail, finished | turn | ⟨-, k, settling⟩⟩ :=
    exists_advance underway working calm
  · exact ⟨later, t, trail, .inl finished⟩
  · exact ⟨later, t, trail, .inr (.inr turn)⟩
  · -- The time after the time of grace does not begin a second time.
    by_cases working' : t.attention = .finished
    · exact ⟨later, t, trail, .inl working'⟩
    by_cases calm' : t.demand = none
    · obtain ⟨more, u, trail', finished | turn | ⟨⟨ids, stage⟩, -⟩⟩ :=
        exists_advance (underway_of_trail underway trail) working' calm'
      · exact ⟨_, u, trail.trans trail', .inl finished⟩
      · refine ⟨_, u, trail.trans trail', .inr (.inr ?_)⟩
        rw [List.countP_append]
        omega
      · rw [stage] at settling
        cases settling
    · exact ⟨later, t, trail, .inr (.inl calm')⟩

/-- Only turns of workers without end keep a shutdown from its end. -/
theorem exists_turns (underway : Underway work n grace start a told s)
    (working : s.attention ≠ .finished) (calm : s.demand = none) (turns : Nat) :
    ∃ later t, Trail (system work) s later t ∧ (t.attention = .finished ∨ t.demand ≠ none ∨
      turns ≤ later.countP Event.isTurn) := by
  -- Induction on the number of turns, one more than which is made before what follows.
  induction turns generalizing told s with
  | zero => exact ⟨[], s, .refl, .inr (.inr (Nat.zero_le _))⟩
  | succ turns ih =>
    obtain ⟨later, t, trail, finished | halted | turn⟩ := exists_turn underway working calm
    · exact ⟨later, t, trail, .inl finished⟩
    · exact ⟨later, t, trail, .inr (.inl halted)⟩
    · by_cases working' : t.attention = .finished
      · exact ⟨later, t, trail, .inl working'⟩
      by_cases calm' : t.demand = none
      · obtain ⟨more, u, trail', ends⟩ := ih (underway_of_trail underway trail) working' calm'
        refine ⟨_, u, trail.trans trail', ends.imp_right (Or.imp_right fun enough => ?_)⟩
        rw [List.countP_append]
        omega
      · exact ⟨later, t, trail, .inr (.inl calm')⟩

/-! ### What holds of a shutdown -/

section Parted

omit [Exact τ]

variable {limit : τ} {c : Ward τ ω κ} {before after : List Event}

/-- Those who are dismissed are those who were left at the parting. -/
theorem Parted.dismissal_iff {ids : List Nat}
    (parted : Parted work ids limit a told s c before after) (i : Nat) :
    .dismissal i ∈ told ↔ i ∈ c.glance.pending ids := by
  rw [parted.told]
  simp [parted.unstruck i]

/-- Whoever was left is dismissed once. -/
theorem Parted.count {ids : List Nat} (distinct : ids.Nodup)
    (parted : Parted work ids limit a told s c before after) {i : Nat}
    (left : i ∈ c.glance.pending ids) : told.count (.dismissal i) = 1 := by
  have one : ((c.glance.pending ids).map Event.dismissal).count (.dismissal i) = 1 := by
    rw [List.count_map_of_injective _ _ fun i j same => Event.dismissal.inj same]
    exact List.count_eq_one_of_mem (distinct.filter _) left
  rw [parted.told, List.count_append, List.count_append, one,
    List.count_eq_zero_of_not_mem (parted.unstruck i).1,
    List.count_eq_zero_of_not_mem (parted.unstruck i).2]

/-- Without dismissals none is counted. -/
theorem countP_isDismissal {told : List Event} (unstruck : ∀ i, .dismissal i ∉ told) :
    told.countP Event.isDismissal = 0 := by
  rw [List.countP_eq_zero]
  intro event member
  cases event with
  | turn i wake => exact Bool.false_ne_true
  | dismissal i => exact absurd member (unstruck i)

/-- As many are dismissed as were left at the parting. -/
theorem Parted.countP {ids : List Nat} (parted : Parted work ids limit a told s c before after) :
    told.countP Event.isDismissal = (c.glance.pending ids).length := by
  have all : ((c.glance.pending ids).map Event.dismissal).countP Event.isDismissal =
      (c.glance.pending ids).length := by
    rw [List.countP_map]
    exact List.countP_eq_length.mpr fun _ _ => rfl
  rw [parted.told, List.countP_append, List.countP_append, all,
    countP_isDismissal fun i => (parted.unstruck i).1,
    countP_isDismissal fun i => (parted.unstruck i).2]
  omega

end Parted

/-- What a shutdown under way has come to, read off its phase. -/
theorem shutDown_of_underway (begun : a.now = start ∧ a.stop = true) (some_ : n ≠ 0)
    (underway : Underway work n grace start a told s) :
    ShutDown work (List.range n) grace start a told s := by
  -- Who was not dismissed did not learn of a dismissal.
  have learnt (i : Nat) (unstruck : .dismissal i ∉ told) : .turn i .dismissed ∉ told :=
    fun now => unstruck (underway.learnt i now)
  refine ⟨⟨begun.1, begun.2, underway.raised⟩, ?_, ?_, ?_, ?_, ?_, ?_, ?_⟩
  · intro nobody
    exact absurd (by simpa using nobody) some_
  · -- Only in the first phase is the stage that of the time of grace.
    intro stage
    cases underway.phase with
    | grace stage' guarded spared =>
      exact ⟨guarded.watch.early, fun i => ⟨spared i, learnt i (spared i)⟩⟩
    | settling c before after parted stage' guarded =>
      rw [stage'] at stage
      cases stage
    | past c before after parted stage' finished early last =>
      rw [stage'] at stage
      cases stage
  · intro _ stage
    -- After the parting the dismissals are those who were left in it, whatever the phase.
    have ends (c : Ward τ ω κ) (before after : List Event)
        (parted : Parted work (List.range n) (start + grace) a told s c before after) :
        (∀ i ∈ List.range n, ¬ c.view.hasEnded i → told.count (.dismissal i) = 1) ∧
        ∀ i, (i ∈ List.range n → c.view.hasEnded i) →
          .dismissal i ∉ told ∧ .turn i .dismissed ∉ told := by
      refine ⟨fun i inside active =>
        parted.count List.nodup_range (State.mem_pending.mpr ⟨inside, active⟩), fun i ended => ?_⟩
      have spared : .dismissal i ∉ told := by
        rw [parted.dismissal_iff, State.mem_pending]
        exact fun left => left.2 (ended left.1)
      exact ⟨spared, learnt i spared⟩
    cases underway.phase with
    | grace stage' guarded spared => exact absurd stage' stage
    | settling c before after parted stage' guarded =>
      exact ⟨c, before, after, parted, ends c before after parted⟩
    | past c before after parted stage' finished early last =>
      exact ⟨c, before, after, parted, ends c before after parted⟩
  · -- In each phase the watch bounds the clock.
    cases underway.phase with
    | grace stage' guarded spared =>
      exact Exact.le_trans _ _ _ guarded.watch.early (Exact.le_add (Exact.ofNat_nonneg 2))
    | settling c before after parted stage' guarded => exact guarded.watch.early
    | past c before after parted stage' finished early last => exact early
  · intro finished
    cases underway.phase with
    | grace stage' guarded spared => exact absurd finished guarded.working
    | settling c before after parted stage' guarded => exact absurd finished guarded.working
    | past c before after parted stage' finished early last =>
      refine ⟨by rw [stage', parted.countP], fun i inside => ?_⟩
      rcases parted.others i inside with left | ended
      · exact (last i left).imp_right fun late => ⟨(parted.dismissal_iff i).mpr left, late⟩
      · exact .inl ended
  · exact exists_turns underway
  · intro working calm ended
    exact finishes_of_deserted underway working calm fun i inside =>
      ended i (List.mem_range.mpr inside)

omit [Exact τ] in
/-- Nothing is conducted any more when the warden has finished. -/
theorem eq_of_finished (finished : a.attention = .finished)
    (trail : Trail (system work) a told s) : s = a ∧ told = [] := by
  induction trail with
  | refl => exact ⟨rfl, rfl⟩
  | tail _ working _ ih => exact absurd (ih.1 ▸ finished) working

/-- A warden that was told to start comes to the shutdown without losing anything. -/
theorem ahead_of_trail {waitFirst : Option τ} {now : τ} {world : ω}
    (trail : Trail (system work) { now, supervisor := .starting crew waitFirst grace, world }
      told s) :
    (InTurn s ∧ Tidy s) ∧ (s.supervisor.isAhead = true → Ahead crew grace s) := by
  induction trail with
  | refl =>
    have orderly : Orderly ({ now, supervisor := .starting crew waitFirst grace, world } :
        Ward τ ω κ) := orderly_new now _ world
    refine ⟨⟨orderly.inTurn, orderly.tidy⟩, fun _ => ⟨orderly, ?_, .inl ⟨⟨waitFirst, rfl⟩, rfl⟩⟩⟩
    rintro i ⟨standing, placed, -⟩
    cases placed
  | tail _ working stepped ih =>
    obtain ⟨⟨inTurn, tidy⟩, ahead⟩ := ih
    exact ⟨⟨inTurn_step _ _ _ inTurn stepped, tidy_step _ tidy inTurn stepped⟩, fun still =>
      ahead_step (ahead (isAhead_of_step tidy inTurn stepped still)) stepped still⟩

/-- Whatever the workers do, a shutdown of them does what it promises. -/
theorem shutDown_of_trail (work : Glance τ → ω → κ → Wake → Turn τ ω κ) (crew : List κ)
    (waitFirst : Option τ) (grace now : τ) (world : ω) (nonneg : 0 ≤ grace)
    {earlier told : List Event} {before a s : Ward τ ω κ}
    (comes : Trail (system work) { now, supervisor := .starting crew waitFirst grace, world }
      earlier before)
    (begins : Begins work before a) (trail : Trail (system work) a told s) :
    ShutDown work (List.range crew.length) grace before.now a told s := by
  -- The turn that begins the shutdown is due, so the shutdown is still ahead before it.
  have ahead : Ahead crew grace before := by
    refine (ahead_of_trail comes).2 ?_
    have due := begins.due
    cases stage : before.supervisor with
    | starting hire first time => rfl
    | waitingFirst ids time => rfl
    | shuttingDown stage' => simp [stage, isDue] at due
    | ended k => simp [stage, isDue] at due
  obtain ⟨same, raised, -⟩ := raised_of_begins ahead begins
  by_cases nobody : crew.length = 0
  · -- Where the crew is empty, nothing comes after the turn that begins.
    obtain ⟨finished, stage⟩ := finished_of_begins nobody ahead begins
    obtain ⟨rfl, rfl⟩ := eq_of_finished finished trail
    have early : s.now ≤ before.now + grace + Scalar.ofNat 2 := by
      rw [same]
      exact Exact.le_trans _ _ _ (Exact.le_add nonneg) (Exact.le_add (Exact.ofNat_nonneg 2))
    rw [nobody]
    refine ⟨⟨same, raised, raised⟩, fun _ => ⟨finished, stage, rfl⟩, ?_, nofun, early,
      fun _ => ⟨stage, by simp⟩, fun working => absurd finished working,
      fun working => absurd finished working⟩
    intro grace_
    rw [stage] at grace_
    cases grace_
  · exact shutDown_of_underway ⟨same, raised⟩ nobody
      (underway_of_trail (underway_of_begins nonneg nobody ahead begins) trail)

end Steps

/-! ### Three errands -/

namespace Errands

/-- One errand ends in the time of grace. The others have to be dismissed, and one of them takes its
time to clean up. -/
def crew : List (Errand.Running Rat) :=
  [{ number := 0, errand := { kind := .sleep 1 } },
    { number := 1, errand := { kind := .sleep 100 } },
    { number := 2, errand := { kind := .sleep 100, cleanup := some 50 } }]

def start : Ward Rat (Errand.Notes Rat) (Errand.Running Rat) :=
  { now := 0, supervisor := .starting crew none 5, world := [] }

def after (steps : Nat) : Ward Rat (Errand.Notes Rat) (Errand.Running Rat) :=
  Pool.conduct (system Errand.work) steps start

end Errands

/-- Two of three errands are dismissed, and the one that is left two seconds later is one of
them. -/
theorem shutDown_errands : (0 : Rat) ≤ 5 ∧
    Trail (system Errand.work) Errands.start [] (Errands.after 1) ∧
    Begins Errand.work (Errands.after 1) (Errands.after 2) ∧
    ((Errands.after 40).attention = .finished ∧ (Errands.after 40).supervisor.dismissed = 2 ∧
      (Errands.after 40).now = 7) ∧
    ((Errands.after 40).workers.map fun w => w.outcome?.isSome) = [true, true, false] ∧
    ∃ told, Trail (system Errand.work) (Errands.after 2) told (Errands.after 40) ∧
      ShutDown Errand.work (List.range 3) 5 0 (Errands.after 2) told (Errands.after 40) := by
  have nonneg : (0 : Rat) ≤ 5 := by decide +kernel
  have comes : Trail (system Errand.work) Errands.start [] (Errands.after 1) :=
    trail_conduct (system Errand.work) 1 Errands.start
  have begins : Begins Errand.work (Errands.after 1) (Errands.after 2) := ⟨⟨[], rfl⟩, rfl, rfl⟩
  have trail : Trail (system Errand.work) (Errands.after 2)
      (trail (system Errand.work) 38 (Errands.after 2)) (Errands.after 40) := by
    have split := conduct_add (system Errand.work) 2 38 Errands.start
    rw [Errands.after, Errands.after, split]
    exact trail_conduct (system Errand.work) 38 _
  exact ⟨nonneg, comes, begins, by decide +kernel, by decide +kernel, _, trail,
    shutDown_of_trail Errand.work Errands.crew none 5 0 [] nonneg comes begins trail⟩

end Warden

end Pool

end Volley
