import Volley.Proofs.Run.Undisturbed

/-!
# A steady run

If what a body records and how it ends depend on the iteration number only, and nothing disturbs the
run, then as long as the director waits, what the users recorded and what they owe is together what
the claimed numbers yield. Every turn of a user keeps that: it makes checks that it owed, or it
claims a number and owes what that yields.

## Main definitions

- `Run.Balanced`: what was recorded and what is owed is due.
- `Run.Steady`: the invariant of such a run.

## Main results

- `guards_steady`: an undisturbed run is steady until its director stops waiting.
-/

namespace Volley

namespace Run

open Http Pool

variable {τ β : Type}

def due (yield : Nat → Yield) (claimed : Nat) : List (String × Bool) :=
  (List.range claimed).flatMap fun iteration => (yield iteration).checks

theorem due_succ (yield : Nat → Yield) (claimed : Nat) :
    due yield (claimed + 1) = due yield claimed ++ (yield claimed).checks := by
  simp [due, List.range_succ]

/-- Every user owes some checks, which together with those that were made are due. -/
structure Balanced (body : Body τ β) (yield : Nat → Yield) (w : World τ)
    (crew : List (Standing (VirtualUser τ β))) (owed : List (List (String × Bool))) : Prop where
  length : owed.length = crew.length
  owes : ∀ (i : Nat) (standing : Standing (VirtualUser τ β)), crew[i]? = some standing →
    ∃ rest, owed[i]? = some rest ∧ Owes body yield standing.state.stage rest
  due : (w.seen ++ owed.flatten).Perm (due yield w.claimed)

/-- The invariant of a run that nothing disturbs. -/
structure Steady (plan : Plan τ) (body : Body τ β) (yield : Nat → Yield) (v : RunView τ β) :
    Prop where
  lowered : v.stop = false
  undisturbed : v.interrupts = 0
  kept : v.givenUp = false
  working : v.finished = false
  undismissed : ∀ standing ∈ v.crew, standing.dismissed = false
  outcomes : ∀ standing ∈ v.crew, standing.outcome = none ∨ standing.outcome = some .returned
  faultless : Faultless v.world.transport
  settled : ∀ entry ∈ Lap.settled v.world.laps, ∃ n : Nat, entry = ((n : Int), (yield n).fault)
  balanced : ∃ owed, Balanced body yield v.world v.crew owed
  setting : Setting plan v

/-! ### Turns of an undisturbed run -/

section Turns

variable {plan : Plan τ} {body : Body τ β} {yield : Nat → Yield}

/-- Whoever makes some of the checks that it owes keeps the balance. -/
theorem Balanced.paced {w : World τ} {crew : List (Standing (VirtualUser τ β))}
    {owed : List (List (String × Bool))} (balanced : Balanced body yield w crew owed) {i : Nat}
    {rest : List (String × Bool)} (found : owed[i]? = some rest)
    {turn : VirtualUser.UserTurn τ β} (paced : Paced body yield w rest turn)
    (standing : Standing (VirtualUser τ β)) (state : standing.state = turn.state) :
    ∃ owed', Balanced body yield turn.world (crew.set i standing) owed' := by
  obtain ⟨length, owes, due_⟩ := balanced
  obtain ⟨rest', owes', steps⟩ := paced.owes
  refine ⟨owed.set i rest', by simpa using length, ?_, ?_⟩
  · -- Only the place of the user has changed; the others owe what they did.
    intro j other placed
    rw [List.getElem?_set] at placed
    split at placed
    next here =>
      subst here
      split at placed
      · cases placed
        refine ⟨rest', List.getElem?_set_self (by omega), by rw [state]; exact owes'⟩
      · cases placed
    next elsewhere =>
      obtain ⟨rest'', before, owes''⟩ := owes j other placed
      exact ⟨rest'', by rw [List.getElem?_set_ne elsewhere]; exact before, owes''⟩
  · -- What the others owe stays as it is.
    obtain ⟨others, before, after⟩ := flatMap_set_perm found id
    simp only [List.flatMap_id] at before after
    apply List.perm_iff_count.mpr
    intro check
    have balance := due_.count_eq check
    -- Counted check by check: what the user owes less was made, or nothing was owed and the next
    -- number is due.
    have owedBefore := before.count_eq check
    have owedAfter := (after rest').count_eq check
    simp only [id, List.count_append] at owedBefore owedAfter
    rw [List.count_append] at balance ⊢
    rcases steps with ⟨same, seen⟩ | ⟨more, seen, nothing, claims⟩
    · have made := congrArg (List.count check) seen
      rw [List.count_append, List.count_append] at made
      rw [same]
      omega
    · rw [more, due_succ, List.count_append, seen, ← claims]
      rw [nothing, List.count_nil] at owedBefore
      omega

variable [Scalar τ]

omit [Scalar τ] in
theorem Steady.calm {v : RunView τ β} (steady : Steady plan body yield v) : Undisturbed plan v :=
  ⟨steady.lowered, steady.undisturbed, steady.kept, steady.working, steady.undismissed,
    steady.outcomes, steady.faultless, steady.setting⟩

omit [Scalar τ] in
theorem Undisturbed.steady {v : RunView τ β} (calm : Undisturbed plan v)
    (settled : ∀ entry ∈ Lap.settled v.world.laps, ∃ n : Nat, entry = ((n : Int), (yield n).fault))
    (balanced : ∃ owed, Balanced body yield v.world v.crew owed) : Steady plan body yield v :=
  ⟨calm.lowered, calm.silent, calm.kept, calm.working, calm.undismissed, calm.outcomes,
    calm.faultless, settled, balanced, calm.setting⟩

/-- A user of a steady run owes some checks, and its next turn is paced. -/
theorem Steady.paced (known : Known plan body yield) {s : RunState τ β}
    (steady : Steady plan body yield s.view) {i : Nat} {w : Worker (VirtualUser τ β)}
    (found : s.workers[i]? = some w) :
    ∃ owed rest, Balanced body yield s.world s.view.crew owed ∧ owed[i]? = some rest ∧
      Paced body yield s.world rest
        (VirtualUser.work plan body s.glance s.world w.state .elapsed) := by
  have placed : s.view.crew[i]? = some w.standing := by simp [State.view, found]
  obtain ⟨owed, balanced⟩ := steady.balanced
  obtain ⟨rest, owes, stage⟩ := balanced.owes i _ placed
  exact ⟨owed, rest, balanced, owes,
    paced_work known s.glance steady.lowered s.world steady.faultless w.state stage⟩

omit [Scalar τ] in
theorem Paced.gentle {w : World τ} {rest : List (String × Bool)} {turn : VirtualUser.UserTurn τ β}
    (paced : Paced body yield w rest turn) : Gentle w turn :=
  ⟨paced.lowered, paced.silent, paced.held, paced.outcome⟩

theorem steady_work (known : Known plan body yield) {s : RunState τ β}
    (steady : Steady plan body yield s.view) (i : Nat) (w : Worker (VirtualUser τ β))
    (found : s.workers[i]? = some w) (active : w.outcome? = none) :
    Steady plan body yield (runWorker (system plan body) s i).view := by
  obtain ⟨owed, rest, balanced, owes, paced⟩ := steady.paced known found
  obtain ⟨owed', balanced'⟩ := balanced.paced owes paced
    ⟨_, false, (VirtualUser.work plan body s.glance s.world w.state .elapsed).pause.outcome?⟩ rfl
  refine (steady.calm.work found active paced.gentle).steady ?_ ?_
  · rw [steady.calm.view_work found active]
    intro entry here
    exact (paced.settled entry here).elim (steady.settled entry) id
  · rw [steady.calm.view_work found active]
    exact ⟨owed', balanced'⟩

omit [Scalar τ] in
theorem steady_begin {v : RunView τ β} (steady : Steady plan body yield v) (g : Glance τ)
    (nobody : v.crew = []) (none_ : g.outcomes = []) (reports : v.supervisor.reports = []) :
    Steady plan body yield
      (v.afterCommand ({ v.supervisor with tasks := [] }.begin plan g v.world)) := by
  have untouched := untouched_begin (β := β) plan { v.supervisor with tasks := [] } g v.world
  refine (steady.calm.begin g nobody none_ reports).steady ?_ ?_
  · -- A beginning run settles nothing.
    have laps : (v.afterCommand
        ({ v.supervisor with tasks := [] }.begin plan g v.world)).world.laps = v.world.laps :=
      congrArg Books.laps untouched.books
    rw [laps]
    exact steady.settled
  · obtain ⟨owed, balanced⟩ := steady.balanced
    -- All there are now are newcomers, who owe nothing.
    refine ⟨List.replicate (min plan.options.vus plan.options.iterations) [],
      by simp [crew_begin g nobody], ?_, ?_⟩
    · intro i standing placed
      obtain ⟨vu, rfl⟩ := newcomer_of_mem nobody (List.mem_of_getElem? placed)
      refine ⟨[], ?_, .outside⟩
      have inside := (List.getElem?_eq_some_iff.mp placed).1
      rw [crew_begin g nobody, List.length_map, List.length_range] at inside
      simp [inside]
    · -- Nobody was there, so nothing was owed and nothing is due.
      have nothing : owed = [] := by
        rw [← List.length_eq_zero_iff, balanced.length, nobody]
        rfl
      have due_ := balanced.due
      have seen : (v.afterCommand
          ({ v.supervisor with tasks := [] }.begin plan g v.world)).world.seen = v.world.seen :=
        congrArg (fun c => c.checks.map CheckResult.seen) untouched.collector
      have claimed : (v.afterCommand
          ({ v.supervisor with tasks := [] }.begin plan g v.world)).world.claimed =
            v.world.claimed := congrArg Books.claimed untouched.books
      rw [seen, claimed]
      rw [nothing] at due_
      simpa using due_

/-- An undisturbed run is steady until its director stops waiting. -/
theorem guards_steady (known : Known plan body yield) :
    Guards plan body (Steady plan body yield) := by
  refine .of_steps (fun _ => Steady.calm) ?_ ?_ ?_
  · intro s steady i w found
    obtain ⟨owed, rest, -, -, paced⟩ := steady.paced known found
    exact paced.gentle
  · exact fun s steady => steady_work known steady
  · exact fun s steady nobody reports =>
      steady_begin steady s.glance nobody (outcomes_of_nobody nobody) reports

omit [Scalar τ] in
theorem steady_initial (transport : Http.Transport τ) (faultless : Faultless transport) (now : τ) :
    Steady plan body yield (initial [.run] transport now : RunState τ β).view := by
  have nobody : (initial [.run] transport now : RunState τ β).view.crew = [] := rfl
  have nothing : Lap.settled (initial [.run] transport now : RunState τ β).view.world.laps = [] :=
    rfl
  exact (undisturbed_initial transport faultless now).steady (by simp [nothing])
    ⟨[], rfl, by simp [nobody], .refl _⟩

end Turns

end Run

end Volley
