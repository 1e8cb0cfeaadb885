import Mathlib.Algebra.Order.Ring.Rat
import Volley.Proofs.Run.Accounts
import Volley.Proofs.Run.Advance

/-!
# Failures of users

A run whose bodies raise nothing worse than ordinary faults and cancellations fails when its
director finds a user that failed, and such a user was struck by a fault of opening or closing its
client. But the director looks for failures only when its first wait is over. A user that fails
later, when it is shut down, does not fail the run.

## Main definitions

- `Run.Mild`: what is asked of bodies and transport.
- `Run.Broken`: a user of the run has failed.
- `Run.Judged`: how a run ended, and what it depended on.

## Main results

- `fault_of_work`: where the failure of a user comes from.
- `judged_of_reaches`: how every run ends.
- `late_failure_completes`: a run with a failed user that completes.
-/

namespace Volley

/-- A fault that a run survives, or takes for a cancellation. -/
def Fault.isMild (f : Fault) : Bool :=
  f.isOrdinary || f.isCancelling

/-- To leave by a sign to stop is to leave by an ordinary fault, and no other fault changes. -/
theorem severity_leaving (f : Fault) : f.leaving.severity = f.severity := by
  unfold Fault.leaving
  split
  next sign =>
    have ordinary : f.isOrdinary = true := (Bool.and_eq_true_iff.mp sign).1
    exact (by simpa [Fault.isOrdinary] using ordinary : f.severity = .ordinary).symm
  · rfl

/-- What is mild stays so on its way out. -/
theorem isMild_leaving {f : Fault} (mild : f.isMild = true) : f.leaving.isMild = true := by
  simpa [Fault.isMild, Fault.isOrdinary, Fault.isCancelling, severity_leaving] using mild

namespace Http

variable {τ : Type}

/-- A plan of one fault strikes one session, by that fault. -/
theorem FaultPlan.single_eq_some {n session : Nat} {planned fault : Fault}
    (struck : FaultPlan.single (some (n, planned)) session = some fault) :
    session = n ∧ fault = planned := by
  simp only [FaultPlan.single, Option.bind_some] at struck
  split at struck
  next here =>
    cases struck
    exact ⟨here.symm, rfl⟩
  next elsewhere => cases struck

/-- A transport has a fault in store for the opening or the closing of a session. -/
def Transport.Threatens (t : Transport τ) (f : Fault) : Prop :=
  ∃ session, planned t.connectFault session = some f ∨ planned t.closeFault session = some f

/-- What a transport threatens is a matter of its plans. -/
theorem threatens_iff_of_plans {t t' : Transport τ} (same : t'.plans = t.plans) (f : Fault) :
    t'.Threatens f ↔ t.Threatens f := by
  obtain ⟨connect, close⟩ := Prod.mk.inj same
  unfold Transport.Threatens
  rw [connect, close]

/-- A client that cannot be opened was struck by a planned fault. -/
theorem threatens_of_enter {c : Client τ} {t : Transport τ} {f : Fault}
    (failed : (c.enter t).1 = .error f) : t.Threatens f := by
  unfold Client.enter Transport.connect at failed
  dsimp only at failed
  cases plan : Transport.planned t.connectFault t.sessions.length with
  | none => rw [plan] at failed; cases failed
  | some fault =>
    rw [plan] at failed
    cases failed
    exact ⟨_, .inl plan⟩

/-- So was one that cannot be closed. -/
theorem threatens_of_exit {c : Client τ} {t : Transport τ} {f : Fault}
    (failed : (c.exit t).1 = .error f) : t.Threatens f := by
  unfold Client.exit Transport.close at failed
  split at failed
  · cases failed
  next number _ =>
    cases plan : Transport.planned t.closeFault number with
    | none => rw [plan] at failed; cases failed
    | some fault =>
      rw [plan] at failed
      cases failed
      exact ⟨_, .inr plan⟩

end Http

namespace Run

open Http Pool

variable {τ β : Type}

/-- In a session nothing worse was raised than ordinary faults and cancellations: by no body that
has ended, and by no transport that strikes the opening or the closing of a session. -/
structure Mild (transport : Transport τ) (s : RunState τ β) : Prop where
  bodies : ∀ vu iteration time fault, .ended vu iteration time (some fault) ∈ s.world.history →
    fault.isMild = true
  opening : ∀ session fault, transport.connectFault session = some fault → fault.isMild = true
  closing : ∀ session fault, transport.closeFault session = some fault → fault.isMild = true

/-- What a mild transport has in store for a session is mild. -/
theorem Mild.threatens {transport : Transport τ} {s : RunState τ β} (mild : Mild transport s)
    {f : Fault} (threatens : transport.Threatens f) : f.isMild = true := by
  have planned_mild {plan : FaultPlan} {session : Nat}
      (all : ∀ session fault, plan session = some fault → fault.isMild = true)
      (planned : Transport.planned plan session = some f) : f.isMild = true := by
    obtain ⟨fault, struck, rfl⟩ := Option.map_eq_some_iff.mp planned
    exact isMild_leaving (all session fault struck)
  obtain ⟨session, opening | closing⟩ := threatens
  · exact planned_mild mild.opening opening
  · exact planned_mild mild.closing closing

/-! ### Where failures come from -/

section Origin

/-- A body has raised a fault that is not ordinary. -/
def Raised (w : World τ) (f : Fault) : Prop :=
  f.isOrdinary = false ∧ ∃ vu iteration time, .ended vu iteration time (some f) ∈ w.history

/-- Whoever leaves by a fault had it before, or was struck by it on the way out. -/
theorem fault_of_leave {user : VirtualUser τ β} {w : World τ} {client : Client τ}
    {outcome : Outcome} {f : Fault}
    (failed : (user.leave w client outcome).pause.outcome? = some (.failed f)) :
    outcome = .failed f ∨ w.transport.Threatens f := by
  unfold VirtualUser.leave at failed
  cases closed : (client.exit w.transport).1 with
  | ok client' =>
    simp only [closed, Pause.outcome?, Option.some.injEq] at failed
    exact .inl failed
  | error fault =>
    simp only [closed, Pause.outcome?, Option.some.injEq, Outcome.failed.injEq] at failed
    exact .inr (threatens_of_exit (failed ▸ closed))

/-- A user that leaves after its iteration leaves with what its body raised, which is in the history
then, unless its client cannot be closed. -/
theorem fault_of_conclude {g : Glance τ} {w : World τ} {user : VirtualUser τ β}
    {client : Client τ} {iteration : Nat} {fault : Option Fault} {f : Fault}
    (failed : (VirtualUser.conclude g w user client iteration fault).pause.outcome? =
      some (.failed f)) :
    w.transport.Threatens f ∨
      Raised (VirtualUser.conclude g w user client iteration fault).world f := by
  simp only [VirtualUser.conclude] at failed ⊢
  split at failed
  · cases failed
  next raised =>
    split at failed
    · cases failed
    next grave =>
      rcases fault_of_leave failed with same | threatens
      · cases same
        rw [if_neg grave]
        -- On its way out a user keeps what it has told, the end of its iteration with it.
        have left : Writes g.now _ (user.leave _ client (.failed f)).world :=
          writes_leave user (w.record (.ended user.vu iteration g.now (some f))) client (.failed f)
        obtain ⟨latest, history, -⟩ := left.history
        refine .inr ⟨by simpa using grave, user.vu, iteration, g.now, ?_⟩
        rw [history]
        exact List.mem_append_right _ List.mem_cons_self
      · exact .inl threatens

/-- A user that fails was cancelled, or struck by a fault of opening or closing its client, or its
body has raised something worse than an ordinary fault. -/
theorem fault_of_work [Scalar τ] {plan : Plan τ} {body : Body τ β} {g : Glance τ} {w : World τ}
    {user : VirtualUser τ β} {wake : Wake} {f : Fault}
    (failed : (VirtualUser.work plan body g w user wake).pause.outcome? = some (.failed f)) :
    f.isCancelling = true ∨ w.transport.Threatens f ∨
      Raised (VirtualUser.work plan body g w user wake).world f := by
  unfold VirtualUser.work at failed ⊢
  split at failed
  · cases wake with
    | dismissed =>
      cases failed
      exact .inl rfl
    | elapsed =>
      simp only [VirtualUser.enter] at failed
      split at failed
      next fault transport' entered =>
        cases failed
        exact .inr (.inl (threatens_of_enter (congrArg Prod.fst entered)))
      · cases failed
  next client stage =>
    cases wake with
    | dismissed =>
      rcases fault_of_leave failed with same | threatens
      · cases same
        exact .inl rfl
      · exact .inr (.inl threatens)
    | elapsed =>
      simp only [VirtualUser.claim] at failed
      split at failed
      · exact .inr (.inl ((fault_of_leave failed).resolve_left nofun))
      · split at failed
        · exact .inr (.inl ((fault_of_leave failed).resolve_left nofun))
        · cases failed
  next client iteration stage inside =>
    have wrote : Writes g.now w (Iteration.step body client iteration g w stage wake).world :=
      writes_step body client iteration g w stage wake
    dsimp only at failed ⊢
    split at failed
    next next pause goes =>
      rw [outcome_step _ _ _ _ _ _ _ _ _ goes] at failed
      cases failed
    next fault ended =>
      -- The step before has not changed the plans, so what threatens after it threatened before.
      exact .inr ((fault_of_conclude failed).imp_left (threatens_iff_of_plans wrote.plans f).mp)
  · cases failed

end Origin

/-! ### Failed users -/

/-- The user of a worker has ended by a fault, and not by being cancelled. -/
def FailedBy (s : RunState τ β) (i : Nat) (f : Fault) : Prop :=
  f.isCancelling = false ∧ ∃ w, s.workers[i]? = some w ∧ w.outcome? = some (.failed f)

/-- A user of the latest run has failed. -/
def Broken (s : RunState τ β) : Prop :=
  ∃ i ∈ s.world.crew, ∃ f, FailedBy s i f

section Failed

variable {s t : RunState τ β} {i : Nat} {f : Fault}

/-- Who has failed shows on the roster. -/
theorem failedBy_iff : FailedBy s i f ↔
    f.isCancelling = false ∧ ∃ user, (roster s.view.crew)[i]? = some (user, some (.failed f)) := by
  refine and_congr_right fun _ => ?_
  constructor
  · rintro ⟨w, found, ended⟩
    exact ⟨w.state, mem_roster.mpr ⟨w, found, rfl, ended⟩⟩
  · rintro ⟨user, entry⟩
    obtain ⟨w, found, -, ended⟩ := mem_roster.mp entry
    exact ⟨w, found, ended⟩

/-- The glance of the director shows who has failed. -/
theorem failedBy_iff_glance :
    FailedBy s i f ↔ (s.glance.outcome? i).bind Outcome.fault? = some f := by
  have shown : s.glance.outcome? i = (s.workers[i]?).bind Worker.outcome? := by
    cases found : s.workers[i]? <;> simp [State.glance, Glance.outcome?, found]
  rw [shown]
  unfold FailedBy
  cases found : s.workers[i]? with
  | none => simp
  | some w =>
    cases ended : w.outcome? with
    | none => simp [ended]
    | some outcome =>
      cases outcome with
      | returned => simp [ended, Outcome.fault?]
      | failed fault =>
        -- Those who were cancelled are no failures for the director either.
        cases mild : fault.isCancelling with
        | true =>
          simp only [Option.some.injEq, exists_eq_left', ended, Outcome.failed.injEq,
            Option.bind_some, Outcome.fault?, mild, if_true, reduceCtorEq, iff_false]
          rintro ⟨grave, rfl⟩
          rw [mild] at grave
          cases grave
        | false =>
          simp only [Option.some.injEq, exists_eq_left', ended, Outcome.failed.injEq,
            Option.bind_some, Outcome.fault?, mild, Bool.false_eq_true, if_false]
          exact ⟨fun holds => holds.2, fun same => ⟨same ▸ mild, same⟩⟩

/-- Whom the director finds has failed. -/
theorem failedBy_of_firstFailure
    (found : Director.firstFailure s.glance s.world.crew = some f) :
    ∃ i ∈ s.world.crew, FailedBy s i f := by
  obtain ⟨i, member, fails⟩ := List.exists_of_findSome?_eq_some found
  exact ⟨i, member, failedBy_iff_glance.mpr fails⟩

/-- If it finds nobody, nobody has failed. -/
theorem not_broken_of_firstFailure
    (nobody : Director.firstFailure s.glance s.world.crew = none) : ¬ Broken s := by
  rintro ⟨i, member, f, failed⟩
  have unfailing := List.findSome?_eq_none_iff.mp nobody i member
  rw [failedBy_iff_glance.mp failed] at unfailing
  cases unfailing

variable [Scalar τ] {plan : Plan τ} {body : Body τ β}

/-- Who has failed stays so. -/
theorem failedBy_of_happens (happens : Happens plan body s t) (failed : FailedBy s i f) :
    FailedBy t i f := by
  obtain ⟨grave, user, entry⟩ := failedBy_iff.mp failed
  refine failedBy_iff.mpr ⟨grave, user, ?_⟩
  cases part_of_happens plan body happens with
  | nobody remarks supervisor crew => rwa [crew]
  | director command duty world supervisor crew =>
    rw [crew, List.getElem?_append_left (List.getElem?_eq_some_iff.mp entry).1]
    exact entry
  | user j w found active world supervisor crew =>
    -- Whoever takes a turn has not ended.
    have other : j ≠ i := by
      rintro rfl
      obtain ⟨w', found', -, ended⟩ := mem_roster.mp entry
      rw [found] at found'
      cases found'
      rw [active] at ended
      cases ended
    rw [crew, List.getElem?_set_ne other]
    exact entry

/-- Who has failed stays so for the rest of the session. -/
theorem failedBy_of_reaches (reaches : Reaches plan body s t) (failed : FailedBy s i f) :
    FailedBy t i f := by
  induction reaches with
  | refl => exact failed
  | tail _ happens ih => exact failedBy_of_happens happens ih

end Failed

/-! ### Where failures come from in a session -/

/-- Whoever has ended by a fault was cancelled, or struck by a fault of the transport, or its body
raised something grave. -/
structure Blamed (transport : Transport τ) (s : RunState τ β) : Prop where
  plans : s.world.transport.plans = transport.plans
  outcomes : ∀ entry ∈ roster s.view.crew, ∀ f, entry.2 = some (.failed f) →
    f.isCancelling = true ∨ transport.Threatens f ∨ Raised s.world f

section Blame

variable [Scalar τ] {plan : Plan τ} {body : Body τ β} {transport : Transport τ}

/-- Whatever happens, everybody who failed has something to blame. -/
theorem blamed_of_happens {s t : RunState τ β} (blamed : Blamed transport s)
    (happens : Happens plan body s t) : Blamed transport t := by
  obtain ⟨plans, outcomes⟩ := blamed
  -- Whoever ended before is to blame as before.
  have before {entry : VirtualUser τ β × Option Outcome} (member : entry ∈ roster s.view.crew)
      (f : Fault) (ended : entry.2 = some (.failed f)) :
      f.isCancelling = true ∨ transport.Threatens f ∨ Raised t.world f := by
    refine (outcomes entry member f ended).imp_right (.imp_right ?_)
    rintro ⟨grave, vu, iteration, time, raised⟩
    exact ⟨grave, vu, iteration, time, mem_history_of_happens happens raised⟩
  cases part_of_happens plan body happens with
  | nobody remarks supervisor crew =>
    refine ⟨?_, ?_⟩
    · rw [remarks.untouched.transport, plans]
    · rw [crew]
      exact fun entry => before
  | director command duty world supervisor crew =>
    refine ⟨?_, ?_⟩
    · rw [world, (untouched_duty plan duty).transport, plans]
    · rw [crew]
      intro entry member f ended
      rcases List.mem_append.mp member with there | hired
      · exact before there f ended
      · -- Those who are hired have not ended.
        obtain ⟨user, -, rfl⟩ := List.mem_map.mp hired
        cases ended
  | user i w found active world supervisor crew =>
    have wrote : Writes s.now s.world (turnOf plan body s w).world :=
      writes_work plan body s.glance s.world w.state _
    refine ⟨?_, ?_⟩
    · rw [world, wrote.plans, plans]
    · rw [crew]
      intro entry member f ended
      rcases List.mem_or_eq_of_mem_set member with there | rfl
      · exact before there f ended
      · -- The fault of the user that took its turn comes from this turn.
        rw [world]
        exact (fault_of_work ended).imp_right (.imp_left (threatens_iff_of_plans plans f).mp)

/-- At every point of a session everybody who failed has something to blame. -/
theorem blamed_of_reaches {tasks : List Task} {now : τ} {s : RunState τ β}
    (reaches : Reaches plan body (initial tasks transport now) s) : Blamed transport s := by
  induction reaches with
  | refl =>
    refine ⟨rfl, ?_⟩
    intro entry member
    exact absurd member List.not_mem_nil
  | tail _ happens ih => exact blamed_of_happens ih happens

/-- If nothing grave was raised until later, users fail only by ordinary faults of opening or
closing their clients. -/
theorem struck_of_mild {tasks : List Task} {now : τ} {a s : RunState τ β}
    (mild : Mild transport s) (first : Reaches plan body (initial tasks transport now) a)
    (later : Reaches plan body a s) {i : Nat} {f : Fault} (failed : FailedBy a i f) :
    transport.Threatens f ∧ f.isOrdinary = true := by
  have ordinary (mild : f.isMild = true) : f.isOrdinary = true := by
    simpa [Fault.isMild, failed.1] using mild
  obtain ⟨grave, user, entry⟩ := failedBy_iff.mp failed
  rcases (blamed_of_reaches first).outcomes _ (List.mem_of_getElem? entry) f rfl with
    cancelled | threatens | ⟨unordinary, vu, iteration, time, raised⟩
  · rw [grave] at cancelled
    cases cancelled
  · exact ⟨threatens, ordinary (mild.threatens threatens)⟩
  · -- What was raised until the first point is in the history at the later one.
    have raised' := ordinary (mild.bodies _ _ _ _ (mem_history_of_reaches later raised))
    rw [unordinary] at raised'
    cases raised'

end Blame

/-! ### What the director found when its first wait was over -/

section Judging

variable [Scalar τ] (plan : Plan τ) (body : Body τ β)

/-- The first wait of the run that is on ended at `a`; it has not been reported on since. -/
structure Since (start a s : RunState τ β) : Prop where
  first : Reaches plan body start a
  watching : ∃ since, a.supervisor.phase = .watching since
  past : ∃ b, Happens plan body a b ∧ (∀ since, b.supervisor.phase ≠ .watching since) ∧
    Reaches plan body b s
  reports : s.supervisor.reports = a.supervisor.reports
  crew : s.world.crew = a.world.crew

/-- In a shutdown the director acts on what it found when its first wait was over. -/
def Recalls (start s : RunState τ β) : Phase τ → Prop
  | .draining _ failure _ => ∃ a, Since plan body start a s ∧
      Director.firstFailure a.glance a.world.crew = failure
  | .failing cause _ => ∃ a, Since plan body start a s ∧
      Director.firstFailure a.glance a.world.crew = some cause
  | _ => True

variable {plan body}

/-- As long as nothing is reported, the first wait of the run stays the same. -/
theorem Since.later {start a s t : RunState τ β} (since : Since plan body start a s)
    (happens : Happens plan body s t)
    (reports : t.supervisor.reports = s.supervisor.reports)
    (crew : t.world.crew = s.world.crew) : Since plan body start a t := by
  obtain ⟨first, watching, ⟨b, past, apart, reaches⟩, reports', crew'⟩ := since
  exact ⟨first, watching, ⟨b, past, apart, reaches.tail happens⟩, reports.trans reports',
    crew.trans crew'⟩

/-- What the director remembers it goes on remembering. -/
theorem Recalls.later {start s t : RunState τ β} {phase : Phase τ}
    (recalls : Recalls plan body start s phase) (happens : Happens plan body s t)
    (reports : t.supervisor.reports = s.supervisor.reports)
    (crew : t.world.crew = s.world.crew) : Recalls plan body start t phase := by
  cases phase with
  | draining since failure stage =>
    obtain ⟨a, since, found⟩ := recalls
    exact ⟨a, since.later happens reports crew, found⟩
  | failing cause stage =>
    obtain ⟨a, since, found⟩ := recalls
    exact ⟨a, since.later happens reports crew, found⟩
  | watching since => trivial
  | idle => trivial

/-- Whatever the director does, it acts on what it found. -/
theorem recalls_of_happens {start s t : RunState τ β} (reaches : Reaches plan body start s)
    (happens : Happens plan body s t) (recalls : Recalls plan body start s s.supervisor.phase) :
    Recalls plan body start t t.supervisor.phase := by
  cases part_of_happens plan body happens with
  | nobody remarks supervisor crew =>
    rw [supervisor]
    exact recalls.later happens (congrArg Director.reports supervisor) remarks.crew
  | user i w found active world supervisor crew =>
    have wrote : Writes s.now s.world (turnOf plan body s w).world :=
      writes_work plan body s.glance s.world w.state _
    rw [supervisor]
    exact recalls.later happens (congrArg Director.reports supervisor) (world ▸ wrote.crew)
  | director command duty world supervisor crew =>
    rw [supervisor]
    cases duty with
    | finishes idle tasks same =>
      subst same
      change Recalls plan body start t s.supervisor.phase
      rw [idle]
      trivial
    | begins rest idle tasks same => rw [same]; trivial
    | reports task rest other idle tasks stop world asked same => rw [same]; trivial
    | ends carries dismiss order phase report reports time lifecycle verdict completes =>
      rw [phase]
      trivial
    | waits carries waited limit order wait reports =>
      have reports' : t.supervisor.reports = s.supervisor.reports := supervisor ▸ reports
      have crew' : t.world.crew = s.world.crew := world ▸ carries.remarks.crew
      generalize phase_eq : s.supervisor.phase = phase at wait recalls
      generalize phase_eq' : command.state.phase = phase' at wait
      generalize command.world.lifecycle = lifecycle, command.dismiss = dismissed at wait
      have recalls' := recalls.later happens reports' crew'
      cases wait with
      | overrun since left =>
        -- The first wait is over here, and what is found is kept in the phase.
        refine ⟨s, ⟨reaches, ⟨since, phase_eq⟩, ⟨t, happens, ?_, .refl⟩, reports', crew'⟩, rfl⟩
        rw [supervisor, phase_eq']
        nofun
      | drain since failure waited left => exact recalls'
      | fail since cause stage past ordinary left => exact recalls'
      | settle cause waited left => exact recalls'

/-! ### How runs end -/

variable (plan body)

/-- How a run ended that was reported on between `a` and `b`. Its first wait was over at `a₀`. -/
structure Judged (transport : Transport τ) (start a₀ a b : RunState τ β) (report : Report τ) :
    Prop where
  first : Reaches plan body start a₀
  watching : ∃ since, a₀.supervisor.phase = .watching since
  past : ∃ c, Happens plan body a₀ c ∧ (∀ since, c.supervisor.phase ≠ .watching since) ∧
    Reaches plan body c b
  onward : Reaches plan body a₀ a
  made : Happens plan body a b
  reported : b.supervisor.reports = report :: a.supervisor.reports
  unreported : a.supervisor.reports = a₀.supervisor.reports
  /-- The run gives a result, or it fails. -/
  ends : (∃ result, report.ending = .result result) ∨ ∃ cause, report.ending = .failed cause
  /-- It fails just if a user had failed by the end of its first wait, and then by such a fault. -/
  fails : (∃ cause, report.ending = .failed cause) ↔ Broken a₀
  cause : ∀ cause, report.ending = .failed cause → ∃ i ∈ a₀.world.crew, FailedBy a₀ i cause
  /-- Users fail only by a fault of opening or closing their clients. -/
  outside : ∀ i f, FailedBy a i f → transport.Threatens f
  lasting : Broken a₀ → Broken a
  /-- So it fails just if a user has failed by its own end, unless the first one did so only after
  its first wait. -/
  known : ((∃ cause, report.ending = .failed cause) ↔ Broken a) ↔ (Broken a → Broken a₀)

/-- A failure, or none, was found at `a` when the first wait of the run was over. -/
def Found (start a s : RunState τ β) (failure : Option Fault) : Prop :=
  Director.firstFailure a.glance a.world.crew = failure ∧
    (Since plan body start a s ∨
      a = s ∧ Reaches plan body start s ∧ ∃ since, s.supervisor.phase = .watching since)

variable {plan body}

/-- A run whose waits are over has found what it was to find. -/
theorem found_of_concludes {start s : RunState τ β} (reaches : Reaches plan body start s)
    {phase : Phase τ} (here : s.supervisor.phase = phase)
    (recalls : Recalls plan body start s phase) {since : τ} {failure : Option Fault}
    (past : Concludes s.glance s.world phase since failure) :
    ∃ a, Found plan body start a s failure := by
  cases past with
  | watched _ _ found ended => exact ⟨s, found, .inr ⟨rfl, reaches, since, here⟩⟩
  | drained _ _ stage past =>
    obtain ⟨a, since, found⟩ := recalls
    exact ⟨a, found, .inl since⟩

/-- What is found was found in the course, by the crew of this run. -/
theorem Found.onward {start a s : RunState τ β} {failure : Option Fault}
    (found : Found plan body start a s failure) : Reaches plan body start a ∧
      Reaches plan body a s ∧ s.supervisor.reports = a.supervisor.reports ∧
      s.world.crew = a.world.crew ∧ ∃ since, a.supervisor.phase = .watching since := by
  rcases found.2 with since | ⟨rfl, reaches, watching⟩
  · obtain ⟨first, watching, ⟨b, past, -, reaches⟩, reports, crew⟩ := since
    exact ⟨first, .head past reaches, reports, crew, watching⟩
  · exact ⟨reaches, .refl, rfl, rfl, watching⟩

variable {transport : Transport τ} {tasks : List Task} {now : τ}

/-- A run is judged by what the director found when its first wait was over. -/
theorem judged_of_found {a₀ a b : RunState τ β} {report : Report τ} {failure : Option Fault}
    (struck : ∀ i f, FailedBy a i f → transport.Threatens f ∧ f.isOrdinary = true)
    (found : Found plan body (initial tasks transport now) a₀ a failure)
    (happens : Happens plan body a b) (idle : b.supervisor.phase = .idle)
    (reported : b.supervisor.reports = report :: a.supervisor.reports)
    (ends : (∃ result, report.ending = .result result) ∧ failure = none ∨
      ∃ cause, report.ending = .failed cause ∧ failure = some cause) :
    Judged plan body transport (initial tasks transport now) a₀ a b report := by
  obtain ⟨first, onward, unreported, crew, watching⟩ := found.onward
  have past : ∃ c, Happens plan body a₀ c ∧ (∀ since, c.supervisor.phase ≠ .watching since) ∧
      Reaches plan body c b := by
    rcases found.2 with since | ⟨rfl, -, -⟩
    · obtain ⟨c, past, apart, reaches⟩ := since.past
      exact ⟨c, past, apart, reaches.tail happens⟩
    · refine ⟨b, happens, ?_, .refl⟩
      rw [idle]
      nofun
  have lasting : Broken a₀ → Broken a := by
    rintro ⟨i, member, f, failed⟩
    exact ⟨i, crew ▸ member, f, failedBy_of_reaches onward failed⟩
  have outside (i : Nat) (f : Fault) (failed : FailedBy a i f) : transport.Threatens f :=
    (struck i f failed).1
  obtain ⟨first_, -⟩ := found
  rcases ends with ⟨⟨result, ending⟩, rfl⟩ | ⟨cause, ending, rfl⟩
  · -- Nobody had failed, and the run gives a result.
    have unfailing : ¬ ∃ cause, report.ending = .failed cause := by
      rintro ⟨cause, other⟩
      rw [ending] at other
      cases other
    have fails := iff_of_false unfailing (not_broken_of_firstFailure first_)
    refine ⟨first, watching, past, onward, happens, reported, unreported, .inl ⟨result, ending⟩,
      fails, ?_, outside, lasting, ?_⟩
    · intro cause other
      exact absurd ⟨cause, other⟩ unfailing
    · -- The run failed just if somebody had failed at `a₀`, so what is said of `a` is said of
      -- `a₀`.
      rw [fails]
      exact ⟨fun same => same.mpr, fun back => ⟨lasting, back⟩⟩
  · obtain ⟨i, member, failed⟩ := failedBy_of_firstFailure first_
    have fails : (∃ cause, report.ending = .failed cause) ↔ Broken a₀ :=
      iff_of_true ⟨cause, ending⟩ ⟨i, member, cause, failed⟩
    refine ⟨first, watching, past, onward, happens, reported, unreported, .inr ⟨cause, ending⟩,
      fails, ?_, outside, lasting, ?_⟩
    · intro other same
      rw [ending] at same
      cases same
      exact ⟨i, member, failed⟩
    · rw [fails]
      exact ⟨fun same => same.mpr, fun back => ⟨lasting, back⟩⟩

/-- Whoever ends a run does so by what was found when its first wait was over. -/
theorem judged_of_verdict {s t : RunState τ β} {report : Report τ}
    (struck : ∀ i f, FailedBy s i f → transport.Threatens f ∧ f.isOrdinary = true)
    (reaches : Reaches plan body (initial tasks transport now) s)
    (recalls : Recalls plan body (initial tasks transport now) s s.supervisor.phase)
    (happens : Happens plan body s t)
    (verdict : Verdict s.glance s.world s.supervisor.phase report.lifecycle report.ending)
    (idle : t.supervisor.phase = .idle)
    (reported : t.supervisor.reports = report :: s.supervisor.reports) :
    ∃ a₀, Judged plan body transport (initial tasks transport now) a₀ s t report := by
  generalize here : s.supervisor.phase = phase at verdict recalls
  generalize lifecycle_eq : report.lifecycle = lifecycle at verdict
  generalize ending : report.ending = ended at verdict
  cases verdict with
  | completed past result starts stops =>
    obtain ⟨a₀, found⟩ := found_of_concludes reaches here recalls past
    exact ⟨a₀, judged_of_found struck found happens idle reported (.inl ⟨⟨result, ending⟩, rfl⟩)⟩
  | @failed _ _ cause past ordinary nobody =>
    obtain ⟨a₀, found⟩ := found_of_concludes reaches here recalls past
    exact ⟨a₀, judged_of_found struck found happens idle reported (.inr ⟨cause, ending, rfl⟩)⟩
  | settled cause stage past =>
    obtain ⟨a₀, since, found⟩ := recalls
    exact ⟨a₀, judged_of_found struck ⟨found, .inl since⟩ happens idle reported
      (.inr ⟨cause, ending, rfl⟩)⟩
  | @aborted _ _ fault past grave =>
    -- Whoever had failed by then was struck by an ordinary fault.
    obtain ⟨a₀, found⟩ := found_of_concludes reaches here recalls past
    obtain ⟨i, -, failed⟩ := failedBy_of_firstFailure found.1
    have ordinary := (struck i fault (failedBy_of_reaches found.onward.2.1 failed)).2
    rw [ordinary] at grave
    cases grave

/-- Whatever the phase, the director remembers how the first wait of its run ended. -/
theorem recalls_of_reaches {start s : RunState τ β} (idle : start.supervisor.phase = .idle)
    (reaches : Reaches plan body start s) :
    Recalls plan body start s s.supervisor.phase := by
  induction reaches with
  | refl => rw [idle]; trivial
  | tail earlier happens ih => exact recalls_of_happens earlier happens ih

/-- However a session has come to a point, every run that was reported on gave a result or failed,
and it failed just if a user had failed by the end of its first wait. -/
theorem judged_of_reaches (plan : Plan τ) (body : Body τ β) (tasks : List Task)
    (transport : Transport τ) (now : τ) (s : RunState τ β)
    (reaches : Reaches plan body (initial tasks transport now) s) (mild : Mild transport s)
    (report : Report τ)
    (member : report ∈ s.supervisor.reports) (run : report.ending ≠ .silent) :
    ∃ a₀ a b, Reaches plan body b s ∧
      Judged plan body transport (initial tasks transport now) a₀ a b report := by
  obtain ⟨a, b, earlier, happens, later, reported, -⟩ :=
    report_made plan body rfl reaches member
  have unequal {d : Director τ} (same : d.reports = a.supervisor.reports) :
      report :: a.supervisor.reports ≠ d.reports := by
    rw [same]
    exact List.cons_ne_self _ _
  -- Only the director reports, and on a run only when it ends it.
  cases part_of_happens plan body happens with
  | nobody remarks supervisor crew => exact absurd reported.symm (unequal (supervisor ▸ rfl))
  | user i w found active world supervisor crew =>
    exact absurd reported.symm (unequal (supervisor ▸ rfl))
  | director command duty world supervisor crew =>
    rw [supervisor] at reported
    cases duty with
    | finishes idle tasks same => exact absurd reported.symm (unequal (same ▸ rfl))
    | begins rest idle tasks same => exact absurd reported.symm (unequal (same ▸ rfl))
    | reports task rest other idle tasks stop world asked same =>
      rw [same] at reported
      obtain ⟨rfl, -⟩ := List.cons.inj reported
      exact absurd rfl run
    | waits carries waited limit order wait reports =>
      exact absurd reported.symm (unequal reports)
    | ends carries dismiss order phase latest reports time lifecycle verdict completes =>
      obtain ⟨rfl, -⟩ := List.cons.inj (reports.symm.trans reported)
      obtain ⟨a₀, judged⟩ := judged_of_verdict
        (fun i f => struck_of_mild mild earlier (.head happens later)) earlier
        (recalls_of_reaches rfl earlier) happens verdict (supervisor ▸ phase)
        (supervisor ▸ reports)
      exact ⟨a₀, a, b, later, judged⟩

end Judging

/-! ### A late failure -/

namespace Tardy

def plan : Plan Rat :=
  { scenario := "tardy", options := { vus := 1, iterations := 1, maxDuration := 1 },
    requestTimeout := 60 }

/-- The only iteration outlasts the time of the run, but not its first shutdown. -/
def body : Body Rat (Script.State Rat) :=
  Script.body { common := [.sleep 3] }

/-- The client cannot be closed. -/
def transport : Transport Rat :=
  { closeFault := some (0, Fault.ordinary "RuntimeError" "cannot close") }

def start : RunState Rat (Script.State Rat) :=
  initial [.run] transport 0

def after (steps : Nat) : RunState Rat (Script.State Rat) :=
  conduct (system plan body) steps start

theorem reaches (steps : Nat) : Reaches plan body start (after steps) :=
  (reaches_conduct plan body steps _ (inTurn_initial [.run] transport 0)).1

theorem reaches_more (first second : Nat) :
    Reaches plan body (after first) (after (first + second)) :=
  reaches_conduct_add plan body first second (inTurn_initial [.run] transport 0)

end Tardy

/-- An event tells of nothing worse than an ordinary fault or a cancellation. -/
def Event.isMild : Event τ → Bool
  | .ended _ _ _ (some fault) => fault.isMild
  | _ => true

/-- A session is mild if all that its history and its transport hold is. -/
theorem mild_of_all {transport : Transport τ} {s : RunState τ β}
    (bodies : s.world.history.all Event.isMild = true)
    (opening : ∀ session fault, transport.connectFault session = some fault →
      fault.isMild = true)
    (closing : ∀ session fault, transport.closeFault session = some fault →
      fault.isMild = true) : Mild transport s :=
  ⟨fun _ _ _ _ member => List.all_eq_true.mp bodies _ member, opening, closing⟩

/-- The run whose first user cannot open its client fails. -/
theorem judged_stubborn : ∃ report ∈ (Stubborn.after 40).supervisor.reports,
    report.isFailed = true ∧ ∃ a₀ a b, Reaches Stubborn.plan Stubborn.body b (Stubborn.after 40) ∧
      Judged Stubborn.plan Stubborn.body Stubborn.transport Stubborn.start a₀ a b report := by
  have told : ((Stubborn.after 40).supervisor.reports.any Report.isFailed) = true := by
    decide +kernel
  have mild : Mild Stubborn.transport (Stubborn.after 40) := by
    refine mild_of_all (by decide +kernel) (fun session fault struck => ?_) nofun
    obtain ⟨-, rfl⟩ := FaultPlan.single_eq_some struck
    rfl
  obtain ⟨report, member, failed⟩ := List.any_eq_true.mp told
  refine ⟨report, member, failed, judged_of_reaches _ _ [.run] Stubborn.transport 0 _
    (Stubborn.reaches 40) mild report member ?_⟩
  intro silent
  rw [Report.isFailed, silent] at failed
  cases failed

/-- A user fails while it is shut down, before its run is reported on; nothing grave was raised, and
the run gives a result. -/
theorem late_failure_completes :
    Reaches Tardy.plan Tardy.body Tardy.start (Tardy.after 19) ∧
    Reaches Tardy.plan Tardy.body (Tardy.after 19) (Tardy.after 20) ∧
    Broken (Tardy.after 19) ∧ Mild Tardy.transport (Tardy.after 20) ∧
    (Tardy.after 19).supervisor.reports.length = 0 ∧
    ∃ report ∈ (Tardy.after 20).supervisor.reports, ∃ result, report.ending = .result result := by
  have failed : ((Tardy.after 19).workers[0]?).bind Worker.outcome? =
      some (.failed (Fault.ordinary "RuntimeError" "cannot close")) := by decide +kernel
  have told : ((Tardy.after 20).supervisor.reports.any fun report =>
      match report.ending with
      | .result _ => true
      | _ => false) = true := by decide +kernel
  refine ⟨Tardy.reaches 19, Tardy.reaches_more 19 1, ?_, ?_, by decide +kernel, ?_⟩
  · obtain ⟨w, found, ended⟩ := Option.bind_eq_some_iff.mp failed
    exact ⟨0, by decide +kernel, _, rfl, w, found, ended⟩
  · refine mild_of_all (by decide +kernel) nofun fun session fault struck => ?_
    obtain ⟨-, rfl⟩ := FaultPlan.single_eq_some struck
    rfl
  · obtain ⟨report, member, ends⟩ := List.any_eq_true.mp told
    cases ending : report.ending with
    | result result => exact ⟨report, member, result, ending⟩
    | _ => simp [ending] at ends

end Run

end Volley
