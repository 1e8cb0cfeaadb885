import Volley.Proofs.Metric.Tally
import Volley.Proofs.Run.Course

/-!
# Iteration numbers

However the turns of a session fall, its users take the iteration numbers one after another, and
each of them settles its last iteration before it begins another one. So the laps of a session are
orderly, and what the collector counted is what was settled.

## Main definitions

- `Run.Fits`: where a user stands agrees with the laps.
- `Run.Sound`: the invariant of a session with one run.
- `Run.Numbered`: what it says of the numbers.

## Main results

- `sound_reaches`: the invariant holds at every point of a session.
- `numbered_of_reaches`: the numbers are given out in order, each of them once.
-/

namespace Volley

namespace Run

open Http Pool

variable {τ β : Type}

/-- Where a user stands agrees with the laps: it is inside an iteration just if that is under way,
and begins only after its last one was settled, or ends in the ordinary way. A user that is not
hired has none. -/
def Fits (laps : List Lap) (i : Nat) : Option (VirtualUser τ β × Option Outcome) → Prop
  | none => Lap.unsettled i laps = none
  | some (user, outcome) =>
    user.vu = i ∧ match user.stage with
      | .outside | .between _ => outcome = none ∧ Lap.unsettled i laps = none
      | .inside _ iteration _ => outcome = none ∧ Lap.current i laps = some (iteration : Int)
      | .gone => outcome ≠ none ∧ (outcome = some .returned → Lap.unsettled i laps = none)

/-- A lap of somebody else does not matter to a user. -/
theorem Fits.cons {laps : List Lap} {i : Nat} {entry : Option (VirtualUser τ β × Option Outcome)}
    (fits : Fits laps i entry) {lap : Lap} (other : lap.user ≠ i) : Fits (lap :: laps) i entry := by
  cases entry with
  | none => exact (Lap.unsettled_cons_of_other other laps).trans fits
  | some entry =>
    obtain ⟨⟨vu, stage⟩, outcome⟩ := entry
    obtain ⟨vu, fits⟩ := fits
    refine ⟨vu, ?_⟩
    cases stage with
    | outside => exact ⟨fits.1, (Lap.unsettled_cons_of_other other laps).trans fits.2⟩
    | between client => exact ⟨fits.1, (Lap.unsettled_cons_of_other other laps).trans fits.2⟩
    | inside client iteration stage =>
      exact ⟨fits.1, (Lap.current_cons_of_other other laps).trans fits.2⟩
    | gone => exact ⟨fits.1, fun returned =>
        (Lap.unsettled_cons_of_other other laps).trans (fits.2 returned)⟩

/-- The books count the iterations that the laps settle. -/
structure Counted (b : Books) : Prop where
  returned : b.returns = (Lap.settled b.laps).countP (·.2.isNone)
  failed : b.errors = Collector.blame (Lap.faults b.laps)

/-- A turn that adds a lap counts what the lap settles. -/
theorem counted_stride {body : Body τ β} {iterations vu : Nat} {stop : Bool} {b b' : Books}
    {before stage : VirtualUser.Stage τ β} {outcome : Option Outcome} (counted : Counted b)
    (stride : Stride body iterations stop vu b before stage b' outcome) : Counted b' := by
  obtain ⟨returned, failed⟩ := counted
  -- Only a turn that ends an iteration changes the laps or what is counted of them.
  cases stride with
  | settled client iteration stage fault settles =>
    constructor
    · cases fault <;> simp [Books.settle, Lap.settled, settles, returned]
    · cases fault with
      | none => simpa [Books.settle, Lap.faults, Lap.settled, settles] using failed
      | some f => simp [Books.settle, Lap.faults, Lap.settled, settles, Collector.blame_concat,
          failed]
  | aborted client iteration stage fault last aborts =>
    -- An aborted iteration is not settled.
    have unsettling : Lap.settles (some fault) = false := aborts
    constructor
    · simpa [Books.abort, Lap.settled, unsettling] using returned
    · simpa [Books.abort, Lap.faults, Lap.settled, unsettling] using failed
  | _ => exact ⟨returned, failed⟩

/-- The books, the users and the tasks of a session with one run agree with one another. -/
structure Sound (plan : Plan τ) (b : Books) (crew : List (VirtualUser τ β × Option Outcome))
    (tasks : List Task) : Prop where
  orderly : Lap.Orderly (min plan.options.vus plan.options.iterations) b.laps
  claimed : b.claimed = (Lap.begun b.laps).length
  bound : b.claimed ≤ plan.options.iterations
  counted : b.returns = (Lap.settled b.laps).countP (·.2.isNone)
  blamed : b.errors = Collector.blame ((Lap.settled b.laps).filterMap Prod.snd)
  users : ∀ i, Fits b.laps i crew[i]?
  hired : crew.length ≤ min plan.options.vus plan.options.iterations
  /-- The run is still to come only as long as nobody is hired. -/
  once : tasks.count .run = 0 ∨ tasks.count .run = 1 ∧ crew = []

namespace Sound

variable {plan : Plan τ} {body : Body τ β} {b b' : Books} {tasks : List Task}
  {crew : List (VirtualUser τ β × Option Outcome)} {i : Nat} {stop : Bool}
  {user : VirtualUser τ β} {outcome : Option Outcome} {stage : VirtualUser.Stage τ β}

/-- At first nothing is in the books, and the run may be still to come. -/
theorem initial (once : tasks.count .run ≤ 1) :
    Sound plan { claimed := 0, laps := [], returns := 0, errors := [] }
      ([] : List (VirtualUser τ β × Option Outcome)) tasks := by
  refine ⟨.nil, rfl, Nat.zero_le _, rfl, rfl, fun i => rfl, Nat.zero_le _, ?_⟩
  by_cases zero : tasks.count .run = 0
  · exact .inl zero
  · exact .inr ⟨by omega, rfl⟩

/-- A task that is done need not be done again. -/
theorem drop {task : Task} {rest : List Task} (sound : Sound plan b crew (task :: rest)) :
    Sound plan b crew rest := by
  refine { sound with once := ?_ }
  have once := sound.once
  rw [List.count_cons] at once
  rcases once with none_ | ⟨one, nobody⟩
  · exact .inl (by omega)
  · by_cases zero : rest.count .run = 0
    · exact .inl zero
    · exact .inr ⟨by omega, nobody⟩

/-- The run hires its users, who have no iterations yet. -/
theorem hire {rest : List Task} (sound : Sound plan b crew (.run :: rest)) :
    Sound plan b (crew ++ (List.range (min plan.options.vus plan.options.iterations)).map
      fun vu => ((⟨vu, .outside⟩ : VirtualUser τ β), none)) rest := by
  have once := sound.once
  rw [List.count_cons_self] at once
  obtain ⟨last, nobody⟩ : rest.count .run = 0 ∧ crew = [] := by
    rcases once with none_ | ⟨one, nobody⟩
    · omega
    · exact ⟨by omega, nobody⟩
  subst nobody
  refine { sound with users := ?_, hired := by simp, once := .inl last }
  intro i
  -- Nobody was in any place, so no user has an iteration that is not settled.
  have free : Lap.unsettled i b.laps = none := sound.users i
  rw [List.nil_append, List.getElem?_map]
  by_cases inside : i < min plan.options.vus plan.options.iterations
  · rw [List.getElem?_range inside]
    exact ⟨rfl, rfl, free⟩
  · rw [List.getElem?_eq_none (by simpa using Nat.le_of_not_lt inside)]
    exact free

/-- A turn that keeps the books right and fits its own user keeps all sound, if it fits the
others. -/
theorem replace {entry entry' : VirtualUser τ β × Option Outcome}
    (sound : Sound plan b crew tasks) (found : crew[i]? = some entry)
    (orderly : Lap.Orderly (min plan.options.vus plan.options.iterations) b'.laps)
    (claimed : b'.claimed = (Lap.begun b'.laps).length)
    (bound : b'.claimed ≤ plan.options.iterations)
    (counted : b'.returns = (Lap.settled b'.laps).countP (·.2.isNone))
    (blamed : b'.errors = Collector.blame ((Lap.settled b'.laps).filterMap Prod.snd))
    (fits : Fits b'.laps i (some entry'))
    (others : ∀ j, j ≠ i → Fits b.laps j crew[j]? → Fits b'.laps j crew[j]?) :
    Sound plan b' (crew.set i entry') tasks := by
  obtain ⟨inside, -⟩ := List.getElem?_eq_some_iff.mp found
  refine ⟨orderly, claimed, bound, counted, blamed, ?_, by simpa using sound.hired, ?_⟩
  · intro j
    by_cases here : i = j
    · subst here
      rw [List.getElem?_set_self inside]
      exact fits
    · rw [List.getElem?_set_ne here]
      exact others j (Ne.symm here) (sound.users j)
  · -- There is a user, so the run has begun, and there is no other.
    rcases sound.once with none_ | ⟨-, nobody⟩
    · exact .inl none_
    · rw [nobody] at inside
      cases inside

/-- A turn that does not write into the books has only to fit its own user. -/
theorem still {entry entry' : VirtualUser τ β × Option Outcome} (sound : Sound plan b crew tasks)
    (found : crew[i]? = some entry) (fits : Fits b.laps i (some entry')) :
    Sound plan b (crew.set i entry') tasks :=
  sound.replace found sound.orderly sound.claimed sound.bound sound.counted sound.blamed fits
    fun _ _ => id

/-- Every turn of a user keeps the session sound. -/
theorem strode (sound : Sound plan b crew tasks) (found : crew[i]? = some (user, none))
    (stride : Stride body plan.options.iterations stop user.vu b user.stage stage b' outcome) :
    Sound plan b' (crew.set i ({ user with stage }, outcome)) tasks := by
  obtain ⟨inside, -⟩ := List.getElem?_eq_some_iff.mp found
  -- Only workers of the run take turns, and there are no more of them than users.
  have known : i < min plan.options.vus plan.options.iterations :=
    Nat.lt_of_lt_of_le inside sound.hired
  have fits := sound.users i
  rw [found] at fits
  obtain ⟨vu, before⟩ := user
  obtain ⟨rfl, fits⟩ := fits
  dsimp only at stride fits
  have counted := counted_stride ⟨sound.counted, sound.blamed⟩ stride
  -- Whatever lap it adds is its own.
  have others (lap : Lap) (own : lap.user = vu) (j : Nat) (other : j ≠ vu)
      (fits : Fits b.laps j crew[j]?) : Fits (lap :: b.laps) j crew[j]? :=
    fits.cons (by rw [own]; exact fun same => other (Int.natCast_inj.mp same.symm))
  cases stride with
  | refused fault => exact sound.still found ⟨rfl, nofun, nofun⟩
  | opened client => exact sound.still found ⟨rfl, rfl, fits.2⟩
  | left client outcome reason => exact sound.still found ⟨rfl, nofun, fun _ => fits.2⟩
  | continued client iteration stage next => exact sound.still found ⟨rfl, rfl, fits.2⟩
  | idle => exact absurd rfl fits.1
  | began client lowered free =>
    -- The claimed number is the count of the begun ones, which keeps the laps orderly.
    refine sound.replace found ?_ ?_ free sound.counted sound.blamed ⟨rfl, rfl, ?_⟩ ?_
    · simp only [Books.begin, sound.claimed]
      exact sound.orderly.began known fits.2
    · simp [Books.begin, Lap.begun, sound.claimed]
    · simp [Books.begin, Lap.current]
    · exact others (.began vu b.claimed) rfl
  | settled client iteration stage fault settles =>
    refine sound.replace found (sound.orderly.ended known fits.2 fault) sound.claimed sound.bound
      counted.returned counted.failed ⟨rfl, rfl, ?_⟩ (others (.ended vu iteration fault) rfl)
    simp [Books.settle, Lap.unsettled, settles]
  | aborted client iteration stage fault last aborts =>
    -- An aborted iteration is left over, and its user does not end in the ordinary way.
    exact sound.replace found (sound.orderly.ended known fits.2 (some fault)) sound.claimed
      sound.bound counted.returned counted.failed ⟨rfl, nofun, nofun⟩
      (others (.ended vu iteration (some fault)) rfl)

end Sound

/-- The invariant of a session, as it shows in its view. -/
def RunView.Sound (plan : Plan τ) (v : RunView τ β) : Prop :=
  Run.Sound plan v.world.books (roster v.crew) v.supervisor.tasks

section

variable [Scalar τ] (plan : Plan τ) (body : Body τ β)

/-- Whatever changes, the session stays sound. -/
theorem sound_changes {v v' : RunView τ β} (sound : RunView.Sound plan v)
    (changes : Changes plan body v v') : RunView.Sound plan v' := by
  unfold RunView.Sound at sound ⊢
  cases changes with
  | quiet untouched stop supervisor crew =>
    rw [untouched.books, crew, supervisor]
    exact sound
  | strode i user found stage outcome stride stop supervisor crew =>
    rw [crew, supervisor]
    exact sound.strode found stride
  | hired tasks reports untouched stop crew =>
    rw [untouched.books, crew]
    rw [tasks] at sound
    exact sound.hire
  | directed tasks phase reports untouched stop crew =>
    rw [untouched.books, crew]
    rcases tasks with same | ⟨task, -, fewer⟩
    · rw [same]
      exact sound
    · rw [fewer] at sound
      exact sound.drop

/-- A session with one run is sound at every point. -/
theorem sound_reaches (tasks : List Task) (once : tasks.count .run ≤ 1)
    (transport : Http.Transport τ) (now : τ) (s : RunState τ β)
    (reaches : Reaches plan body (initial tasks transport now) s) :
    RunView.Sound plan s.view := by
  apply kept_of_reaches plan body _ _ reaches
  · intro v v' sound changes
    exact sound_changes plan body sound changes
  · exact Sound.initial once

/-- How the iteration numbers of a session have been given out. -/
structure Numbered (s : RunState τ β) : Prop where
  /-- The iterations that began have the numbers from zero on, in order. -/
  numbers : (Lap.begun s.world.laps).map Prod.snd = (List.range s.world.claimed).map Nat.cast
  bound : s.world.claimed ≤ plan.options.iterations
  users : ∀ start ∈ Lap.begun s.world.laps,
    0 ≤ start.1 ∧ start.1 < (min plan.options.vus plan.options.iterations : Nat)
  /-- Whoever begins an iteration has none under way. -/
  alone : ∀ later user iteration earlier,
    s.world.laps = later ++ .began user iteration :: earlier → Lap.current user earlier = none
  /-- A worker is the user of its place, and the body that it runs is under way. -/
  inside : ∀ (i : Nat) (w : Worker (VirtualUser τ β)), s.workers[i]? = some w → w.state.vu = i ∧
    ∀ client iteration stage, w.state.stage = .inside client iteration stage →
      Lap.current i s.world.laps = some (iteration : Int)
  /-- The numbers that one user is given increase. -/
  increasing : ∀ user : Int,
    (((Lap.begun s.world.laps).filter fun start => start.1 = user).map Prod.snd).Pairwise (· < ·)
  /-- Whenever one more iteration begins, a worker starts the body with the next number. -/
  starts : ∀ t, Happens plan body s t → Lap.begun t.world.laps = Lap.begun s.world.laps ∨
    ∃ (i : Nat) (w : Worker (VirtualUser τ β)) (client : Client τ), t.workers[i]? = some w ∧
      w.state = ⟨i, .inside client s.world.claimed
        (.cued (body.start i s.world.claimed) .began)⟩ ∧
      Lap.begun t.world.laps = Lap.begun s.world.laps ++ [((i : Int), (s.world.claimed : Int))]

omit [Scalar τ] in
/-- A turn in which an iteration begins gives the number to its own user. -/
theorem begun_stride {iterations : Nat} {stop : Bool} {vu : Nat} {b b' : Books}
    {before stage : VirtualUser.Stage τ β} {outcome : Option Outcome}
    (stride : Stride body iterations stop vu b before stage b' outcome) :
    Lap.begun b'.laps = Lap.begun b.laps ∨
      ∃ client, stage = .inside client b.claimed (.cued (body.start vu b.claimed) .began) ∧
        Lap.begun b'.laps = Lap.begun b.laps ++ [((vu : Int), (b.claimed : Int))] := by
  cases stride with
  | began client lowered free => exact .inr ⟨client, rfl, rfl⟩
  | _ => exact .inl rfl

/-- One more iteration begins only where a worker starts the body with the next number. -/
theorem starts_of_happens {s t : RunState τ β} (sound : RunView.Sound plan s.view)
    (happens : Happens plan body s t) : Lap.begun t.world.laps = Lap.begun s.world.laps ∨
      ∃ (i : Nat) (w : Worker (VirtualUser τ β)) (client : Client τ), t.workers[i]? = some w ∧
        w.state = ⟨i, .inside client s.world.claimed
          (.cued (body.start i s.world.claimed) .began)⟩ ∧
        Lap.begun t.world.laps =
          Lap.begun s.world.laps ++ [((i : Int), (s.world.claimed : Int))] := by
  have same (untouched : Untouched s.world t.world) :
      Lap.begun t.world.laps = Lap.begun s.world.laps :=
    congrArg (fun b => Lap.begun b.laps) untouched.books
  cases changes_of_happens plan body happens with
  | quiet untouched stop supervisor crew => exact .inl (same untouched)
  | hired tasks reports untouched stop crew phase => exact .inl (same untouched)
  | directed tasks phase reports untouched stop crew shuts => exact .inl (same untouched)
  | strode i user found stage outcome stride stop supervisor crew =>
    rcases begun_stride body stride with same | ⟨client, rfl, more⟩
    · exact .inl same
    · obtain ⟨inside, -⟩ := List.getElem?_eq_some_iff.mp found
      have entry := congrArg (fun crew => crew[i]?) crew
      simp only [List.getElem?_set_self inside] at entry
      obtain ⟨w, placed, state, -⟩ := mem_roster.mp entry
      -- The place of a worker is the number of its user.
      obtain rfl : user.vu = i := by
        have fits := sound.users i
        rw [found] at fits
        exact fits.1
      exact .inr ⟨user.vu, w, client, placed, state, more⟩

/-- At every point of a session with one run, however it has come there, the iterations that began
have the numbers from zero on, one after another and each of them once. -/
theorem numbered_of_reaches (tasks : List Task) (once : tasks.count .run ≤ 1)
    (transport : Http.Transport τ) (now : τ) (s : RunState τ β)
    (reaches : Reaches plan body (initial tasks transport now) s) : Numbered plan body s := by
  have sound : Sound plan s.world.books (roster s.view.crew) s.supervisor.tasks :=
    sound_reaches plan body tasks once transport now s reaches
  have claimed : s.world.claimed = (Lap.begun s.world.laps).length := sound.claimed
  refine ⟨?_, sound.bound, ?_, ?_, ?_, sound.orderly.increasing,
    fun t happens => starts_of_happens plan body sound happens⟩
  · rw [claimed]
    exact sound.orderly.numbers
  · intro start member
    exact sound.orderly.known_user member
  · -- The laps up to one of them are orderly by themselves.
    intro later user iteration earlier split
    have orderly := sound.orderly
    have laps : s.world.books.laps = later ++ .began user iteration :: earlier := split
    rw [laps] at orderly
    exact orderly.one_at_a_time
  · intro i w found
    have fits := sound.users i
    rw [mem_roster.mpr ⟨w, found, rfl, rfl⟩] at fits
    obtain ⟨vu, fits⟩ := fits
    refine ⟨vu, ?_⟩
    intro client iteration stage inside
    rw [inside] at fits
    exact fits.2

/-- The small session has claimed all its numbers before its users end. -/
theorem numbered_sample : (Sample.after 20).world.claimed = 3 ∧
    Numbered Sample.plan Sample.body (Sample.after 20) :=
  ⟨by decide +kernel,
    numbered_of_reaches _ _ [.run] (by decide) {} 0 _ (Sample.reaches 20)⟩

end

end Run

end Volley
