import Mathlib.Algebra.Order.Ring.Rat
import Volley.Proofs.Run.Accounts
import Volley.Proofs.Run.Ledger

/-!
# The balance of a run

However a session goes, what its transport received and what its collector was told of balance.
Every request that came in on a session of a user was measured once, for that user, unless it is
under way; and the results of checks are those of the evaluations that were made so far. The summary
of a run counts just these.

## Main definitions

- `Run.Performs`: a session comes to a point, and its users make some checks on the way.
- `Run.Ledger.receivedOf`: the requests that came in on the sessions of a user.
- `Run.Conserves`: the invariant.
- `Run.Conserved`: what a summary counts.

## Main results

- `conserves_performs`: the invariant holds at every point of a session.
- `conserved_of_performs`: so the summary of every result counts all requests and checks.
-/

namespace Volley

namespace Run

open Http Pool

variable {τ β : Type}

/-! ### Lists changed in one place -/

/-- What a place of a list adds to what is picked from it does not depend on the others. -/
theorem filterMap_set_perm {α ν : Type} {xs : List α} {i : Nat} {x : α} (found : xs[i]? = some x)
    (pick : α → Option ν) : ∃ rest, (xs.filterMap pick).Perm ((pick x).toList ++ rest) ∧
      ∀ y, ((xs.set i y).filterMap pick).Perm ((pick y).toList ++ rest) := by
  simp only [List.filterMap_eq_flatMap_toList]
  exact flatMap_set_perm found fun x => (pick x).toList

/-- A key that occurs once picks out its member. -/
theorem filter_of_nodup {α κ : Type} [DecidableEq κ] {key : α → κ} {xs : List α} {x : α}
    (distinct : (xs.map key).Nodup) (member : x ∈ xs) :
    xs.filter (fun y => key y = key x) = [x] := by
  obtain ⟨before, after, rfl⟩ := List.append_of_mem member
  rw [List.map_append, List.map_cons, List.nodup_middle, List.nodup_cons, ← List.map_append]
    at distinct
  -- Another member with this key would be a second one in the list of keys.
  have others (ys : List α) (sub : ys ⊆ before ++ after) :
      ys.filter (fun y => key y = key x) = [] := by
    rw [List.filter_eq_nil_iff]
    intro y there same
    have listed : key y ∈ (before ++ after).map key := List.mem_map_of_mem (sub there)
    exact distinct.1 (of_decide_eq_true same ▸ listed)
  rw [List.filter_append, List.filter_cons_of_pos (by simp),
    others before (List.subset_append_left _ _), others after (List.subset_append_right _ _)]
  rfl

theorem countP_of_nodup {α κ : Type} [DecidableEq κ] {key : α → κ} {xs : List α} {x : α}
    (distinct : (xs.map key).Nodup) (member : x ∈ xs) (p : α → Bool) :
    xs.countP (fun y => key y = key x ∧ p y) = if p x then 1 else 0 := by
  -- Counting with both conditions is counting among the members with this key.
  have counted : (xs.filter fun y => key y = key x).countP p =
      xs.countP fun y => key y = key x ∧ p y := by
    rw [List.countP_filter]
    simp [Bool.and_comm]
  rw [← counted, filter_of_nodup distinct member, List.countP_singleton]

/-! ### What was received -/

namespace Ledger

/-- The requests that a session carried. -/
def carriedBy (l : Ledger τ) (session : Nat) : List Request :=
  l.carried[session]?.getD []

/-- The requests that came in on the sessions of a user. -/
def receivedOf (l : Ledger τ) (vu : Int) : List Request :=
  (l.opened.filter (·.1 = vu)).flatMap fun o => l.carriedBy o.2

/-- All that came in on the sessions of users. -/
def received (l : Ledger τ) : List Brief :=
  l.opened.flatMap fun o => (l.carriedBy o.2).map (briefOf o.1)

/-- No session has two users, and what belongs to nobody is as it was at first. -/
structure Orderly (idle : Nat → List Request) (l : Ledger τ) : Prop where
  known : ∀ o ∈ l.opened, o.2 < l.carried.length
  distinct : (l.opened.map Prod.snd).Nodup
  idle : ∀ session, session ∉ l.opened.map Prod.snd → l.carriedBy session = idle session

theorem countP_received (l : Ledger τ) (vu : Int) :
    l.received.countP (·.1 = vu) = (l.receivedOf vu).length := by
  -- By induction on the sessions that were opened: what a session of another user carried does
  -- not count.
  unfold received receivedOf
  induction l.opened with
  | nil => rfl
  | cons o rest ih =>
    rw [List.flatMap_cons, List.countP_append, ih, List.countP_map]
    by_cases mine : o.1 = vu
    · simp [mine, briefOf, Function.comp_def]
    · simp [mine, briefOf, Function.comp_def]

theorem receivedOf_eq {l : Ledger τ} (distinct : (l.opened.map Prod.fst).Nodup) {vu : Int}
    {session : Nat} (mine : (vu, session) ∈ l.opened) : l.receivedOf vu = l.carriedBy session := by
  rw [receivedOf, filter_of_nodup distinct mine, List.flatMap_singleton]

theorem carriedBy_connect (l : Ledger τ) (session : Nat) :
    l.connect.carriedBy session = l.carriedBy session := by
  unfold connect carriedBy
  rw [List.getElem?_append]
  split
  · rfl
  -- A session that is not known yet carries nothing, before it is connected and after.
  next outside =>
    rw [List.getElem?_eq_none (Nat.le_of_not_lt outside)]
    cases session - l.carried.length <;> rfl

theorem carriedBy_send_of_ne (l : Ledger τ) {session other : Nat} (request : Request)
    (ne : session ≠ other) : (l.send session request).carriedBy other = l.carriedBy other := by
  simp [carriedBy, send, ne]

theorem carriedBy_send (l : Ledger τ) {session : Nat} (request : Request)
    (known : session < l.carried.length) :
    (l.send session request).carriedBy session = l.carriedBy session ++ [request] := by
  simp [carriedBy, send, known]

/-- A request comes in once, under the user whose session carries it. -/
theorem received_send {l : Ledger τ} {idle : Nat → List Request} (orderly : l.Orderly idle)
    {vu : Int} {session : Nat} (mine : (vu, session) ∈ l.opened) (request : Request) :
    (l.send session request).received.Perm (briefOf vu request :: l.received) := by
  obtain ⟨later, earlier, split⟩ := List.append_of_mem mine
  have distinct := orderly.distinct
  rw [split, List.map_append, List.map_cons, List.nodup_middle, List.nodup_cons,
    ← List.map_append] at distinct
  -- The session has this user only, so the others carry what they did before.
  have others (o : Int × Nat) (member : o ∈ later ++ earlier) :
      ((l.send session request).carriedBy o.2).map (briefOf o.1) =
        (l.carriedBy o.2).map (briefOf o.1) := by
    rw [carriedBy_send_of_ne]
    intro same
    have listed : o.2 ∈ (later ++ earlier).map Prod.snd := List.mem_map_of_mem member
    exact distinct.1 (same ▸ listed)
  have later_ := List.flatMap_congr fun o member => others o (List.mem_append_left _ member)
  have earlier_ := List.flatMap_congr fun o member => others o (List.mem_append_right _ member)
  have opened : (l.send session request).opened = later ++ (vu, session) :: earlier := split
  rw [received, opened, received, split]
  simp only [List.flatMap_append, List.flatMap_cons, later_, earlier_,
    carriedBy_send l request (orderly.known _ mine), List.map_append, List.map_cons, List.map_nil]
  rw [List.append_assoc, List.singleton_append, ← List.append_assoc, ← List.append_assoc]
  exact List.perm_middle

theorem received_connect (l : Ledger τ) : l.connect.received = l.received := by
  have same : l.connect.opened = l.opened := rfl
  simp only [received, same, carriedBy_connect]

theorem received_enter (l : Ledger τ) (vu : Int) : (l.enter vu).received = l.received := by
  -- A new session has not carried anything yet.
  have nothing : l.connect.carriedBy l.carried.length = [] := by
    rw [carriedBy_connect, carriedBy, List.getElem?_eq_none (Nat.le_refl _)]
    rfl
  have entered : (l.enter vu).received =
      (l.connect.carriedBy l.carried.length).map (briefOf vu) ++ l.connect.received := rfl
  rw [entered, nothing, received_connect]
  rfl

namespace Orderly

variable {l : Ledger τ} {idle : Nat → List Request}

theorem connect (orderly : l.Orderly idle) : l.connect.Orderly idle := by
  refine ⟨?_, orderly.distinct, ?_⟩
  · intro o member
    have known := orderly.known o member
    simp only [Ledger.connect, List.length_append, List.length_singleton]
    omega
  · intro session others
    rw [carriedBy_connect]
    exact orderly.idle session others

theorem enter (orderly : l.Orderly idle) (vu : Int) : (l.enter vu).Orderly idle := by
  have connected := orderly.connect
  refine ⟨?_, ?_, ?_⟩
  · intro o member
    rcases List.mem_cons.mp member with rfl | member
    · simp [Ledger.enter, Ledger.connect]
    · exact connected.known o member
  · refine List.nodup_cons.mpr ⟨?_, connected.distinct⟩
    intro listed
    obtain ⟨o, member, same⟩ := List.mem_map.mp listed
    -- The number of the new session is one past those that are known.
    have known := orderly.known o member
    dsimp only at same
    omega
  · intro session others
    exact connected.idle session fun listed => others (.tail _ listed)

theorem send (orderly : l.Orderly idle) {vu : Int} {session : Nat} (mine : (vu, session) ∈ l.opened)
    (request : Request) : (l.send session request).Orderly idle := by
  refine ⟨?_, orderly.distinct, ?_⟩
  · intro o member
    simpa [Ledger.send] using orderly.known o member
  · intro other others
    -- A session of this user is not one that belongs to nobody.
    have ne : session ≠ other := by
      rintro rfl
      exact others (List.mem_map_of_mem mine)
    rw [carriedBy_send_of_ne l request ne]
    exact orderly.idle other others

end Orderly

end Ledger

/-! ### Whose client, whose request -/

/-- A user has the client of a session that it opened, and the request under way is its own. -/
structure Owns (l : Ledger τ) (vu : Nat) (stage : VirtualUser.Stage τ β) : Prop where
  client : ∀ client, stage.client? = some client → client.vu = vu ∧
    ∃ session, client.session = some session ∧ ((vu : Int), session) ∈ l.opened
  pending : ∀ brief, stage.pending? = some brief → brief.1 = vu

section Deals

variable {body : Body τ β} {vu : Nat} {l l' : Ledger τ} {before after : VirtualUser.Stage τ β}
  {idle : Nat → List Request}

theorem Owns.mine (owns : Owns l vu before) {client : Client τ} {session : Nat}
    (has : before.client? = some client) (connected : client.session = some session) :
    ((vu : Int), session) ∈ l.opened := by
  obtain ⟨-, other, connected', mine⟩ := owns.client client has
  obtain rfl : session = other := Option.some.inj (connected.symm.trans connected')
  exact mine

/-- Sessions are opened only by a user who has not entered, and one at a time. -/
theorem opened_deal (deal : Deal body vu l before after l') : l'.opened = l.opened ∨
    before = .outside ∧ l'.opened = ((vu : Int), l.carried.length) :: l.opened := by
  cases deal with
  | opened client mine session => exact .inr ⟨rfl, rfl⟩
  | _ => exact .inl rfl

theorem subset_deal (deal : Deal body vu l before after l') : l.opened ⊆ l'.opened := by
  rcases opened_deal deal with same | ⟨-, more⟩
  · exact same ▸ List.Subset.refl _
  · exact more ▸ List.subset_cons_self _ _

theorem orderly_deal (deal : Deal body vu l before after l') (orderly : l.Orderly idle)
    (owns : Owns l vu before) : l'.Orderly idle := by
  cases deal with
  | still client pending silent => exact orderly
  | refused => exact orderly.connect
  | opened client mine session => exact orderly.enter vu
  -- Only a session of the user itself carries more, and no idle one.
  | sent client iteration state state' cue session request flight connected tells silent =>
    exact orderly.send (owns.mine rfl connected) request
  | exchanged client iteration state state' cue cue' session request metric connected tells
      silent =>
    have sent := orderly.send (owns.mine rfl connected) request
    exact ⟨sent.known, sent.distinct, sent.idle⟩
  | answered client iteration state state' flight cue metric tells =>
    exact ⟨orderly.known, orderly.distinct, orderly.idle⟩
  | checked client iteration state state' cue cue' =>
    exact ⟨orderly.known, orderly.distinct, orderly.idle⟩

theorem owns_deal (deal : Deal body vu l before after l') (owns : Owns l vu before) :
    Owns l' vu after := by
  -- Sessions stay open, so a client that is kept has its session still.
  have sub := subset_deal deal
  have kept (same : after.client? = before.client?) (client : Client τ)
      (has : after.client? = some client) : client.vu = vu ∧
        ∃ session, client.session = some session ∧ ((vu : Int), session) ∈ l'.opened := by
    obtain ⟨mine, session, connected, opened⟩ := owns.client client (same ▸ has)
    exact ⟨mine, session, connected, sub opened⟩
  cases deal with
  | still client pending silent =>
    refine ⟨?_, fun brief under => owns.pending brief (pending ▸ under)⟩
    rcases client with same | dropped
    · exact kept same
    · intro client has
      rw [dropped] at has
      cases has
  | refused => exact ⟨nofun, nofun⟩
  | opened client mine session =>
    refine ⟨?_, nofun⟩
    rintro _ ⟨⟩
    exact ⟨mine, _, session, .head _⟩
  | sent client iteration state state' cue session request flight connected tells silent =>
    refine ⟨kept rfl, ?_⟩
    rintro _ ⟨⟩
    -- The brief names the client's user, who is this one.
    rw [tells]
    exact (owns.client client rfl).1
  | exchanged client iteration state state' cue cue' session request metric connected tells
      silent =>
    exact ⟨kept rfl, nofun⟩
  | answered client iteration state state' flight cue metric tells => exact ⟨kept rfl, nofun⟩
  | checked client iteration state state' cue cue' => exact ⟨kept rfl, nofun⟩

/-- What is received more is under way then, or has been measured. -/
theorem balance_deal (deal : Deal body vu l before after l') (orderly : l.Orderly idle)
    (owns : Owns l vu before) (rest : List Brief)
    (balance : l.received.Perm
      (l.metrics.map Metric.brief ++ (before.pending?.toList ++ rest))) :
    l'.received.Perm (l'.metrics.map Metric.brief ++ (after.pending?.toList ++ rest)) := by
  -- A deal without a request moves nothing, and what is under way stays under way.
  cases deal with
  | still client pending silent => exact pending ▸ balance
  | refused =>
    rw [Ledger.received_connect]
    exact balance
  | opened client mine session =>
    rw [Ledger.received_enter]
    exact balance
  | sent client iteration state state' cue session request flight connected tells silent =>
    have received := Ledger.received_send orderly (owns.mine rfl connected) request
    rw [← (owns.client client rfl).1, ← tells] at received
    exact (received.trans (balance.cons _)).trans List.perm_middle.symm
  | exchanged client iteration state state' cue cue' session request metric connected tells
      silent =>
    have received := Ledger.received_send orderly (owns.mine rfl connected) request
    -- It was received and measured in one deal, so that nothing is under way after it.
    rw [← (owns.client client rfl).1, ← tells] at received
    have measured : ((l.send session request).measure metric).metrics.map Metric.brief =
        l.metrics.map Metric.brief ++ [metric.brief] := List.map_append
    rw [measured, List.append_assoc]
    exact (received.trans (balance.cons _)).trans List.perm_middle.symm
  | answered client iteration state state' flight cue metric tells =>
    -- What was under way is measured under the same brief.
    have measured : (l.measure metric).metrics.map Metric.brief =
        l.metrics.map Metric.brief ++ [metric.brief] := List.map_append
    rw [measured, List.append_assoc, tells]
    exact balance
  | checked client iteration state state' cue cue' => exact balance

theorem checks_deal (deal : Deal body vu l before after l') (owns : Owns l vu before) :
    l'.checks = l.checks ++ before.evaluated body vu := by
  cases deal with
  | still client pending silent => rw [silent, List.append_nil]
  | sent client iteration state state' cue session request flight connected tells silent =>
    rw [silent, List.append_nil]
    rfl
  | exchanged client iteration state state' cue cue' session request metric connected tells
      silent =>
    rw [silent, List.append_nil]
    rfl
  | checked client iteration state state' cue cue' =>
    -- The result is told under the client's user, who is this one.
    rw [← (owns.client client rfl).1]
    rfl
  | _ => exact (List.append_nil _).symm

end Deals

/-! ### The invariant -/

/-- What is received and what is measured balance, and the results of checks are those of the
evaluations that were made. -/
structure Conserves (idle : Nat → List Request) (l : Ledger τ)
    (users : List (VirtualUser τ β × Option Outcome)) (done : List CheckResult) : Prop where
  orderly : l.Orderly idle
  owns : ∀ entry ∈ users, Owns l entry.1.vu entry.1.stage
  balance : l.received.Perm
    (l.metrics.map Metric.brief ++ users.filterMap fun entry => entry.1.stage.pending?)
  checks : l.checks = done

namespace Conserves

variable {idle : Nat → List Request} {l l' : Ledger τ} {done : List CheckResult}
  {users : List (VirtualUser τ β × Option Outcome)} {body : Body τ β}

theorem initial (transport : Transport τ) :
    Conserves ({ transport } : World τ).ledger.carriedBy ({ transport } : World τ).ledger
      ([] : List (VirtualUser τ β × Option Outcome)) [] :=
  ⟨⟨List.forall_mem_nil _, .nil, fun _ _ => rfl⟩, List.forall_mem_nil _, .nil, rfl⟩

theorem turn (conserves : Conserves idle l users done) {i : Nat} {user : VirtualUser τ β}
    {outcome : Option Outcome} (found : users[i]? = some (user, outcome))
    {stage : VirtualUser.Stage τ β} (deal : Deal body user.vu l user.stage stage l')
    (outcome' : Option Outcome) :
    Conserves idle l' (users.set i ({ user with stage }, outcome'))
      (done ++ user.stage.evaluated body user.vu) := by
  have owns := conserves.owns _ (List.mem_of_getElem? found)
  refine ⟨orderly_deal deal conserves.orderly owns, ?_, ?_, ?_⟩
  · intro entry member
    rcases List.mem_or_eq_of_mem_set member with there | rfl
    · -- What the others opened is still theirs.
      obtain ⟨client, pending⟩ := conserves.owns entry there
      refine ⟨?_, pending⟩
      intro client' has
      obtain ⟨mine, session, connected, opened⟩ := client client' has
      exact ⟨mine, session, connected, subset_deal deal opened⟩
    · exact owns_deal deal owns
  · obtain ⟨rest, before, after⟩ :=
      filterMap_set_perm found fun entry => entry.1.stage.pending?
    have balance := conserves.balance.trans (before.append_left _)
    exact (balance_deal deal conserves.orderly owns rest balance).trans
      ((after ({ user with stage }, outcome')).symm.append_left _)
  · rw [checks_deal deal owns, conserves.checks]

theorem hire (conserves : Conserves idle l users done) {hired : List (VirtualUser τ β)}
    (outside : ∀ user ∈ hired, user.stage = .outside) :
    Conserves idle l (users ++ hired.map fun user => (user, none)) done := by
  refine ⟨conserves.orderly, ?_, ?_, conserves.checks⟩
  · intro entry member
    rcases List.mem_append.mp member with there | fresh
    · exact conserves.owns entry there
    · obtain ⟨user, hired, rfl⟩ := List.mem_map.mp fresh
      rw [outside user hired]
      exact ⟨nofun, nofun⟩
  · -- Who has not entered has no request under way.
    have none_ : (hired.map fun user => (user, (none : Option Outcome))).filterMap
        (fun entry => entry.1.stage.pending?) = [] := by
      rw [List.filterMap_map, List.filterMap_eq_nil_iff]
      intro user member
      rw [Function.comp_apply, outside user member]
      rfl
    rw [List.filterMap_append, none_, List.append_nil]
    exact conserves.balance

end Conserves

/-! ### One run -/

/-- With one run, no user opens two sessions, and who opened one has entered. -/
structure Sole (l : Ledger τ) (users : List (VirtualUser τ β × Option Outcome)) : Prop where
  distinct : (l.opened.map Prod.fst).Nodup
  entered : ∀ o ∈ l.opened, ∃ (i : Nat) (entry : VirtualUser τ β × Option Outcome),
    users[i]? = some entry ∧ (entry.1.vu : Int) = o.1 ∧ entry.1.stage ≠ .outside

section Sole

variable {plan : Plan τ} {body : Body τ β}

theorem Sole.turn {l l' : Ledger τ} {users : List (VirtualUser τ β × Option Outcome)}
    (sole : Sole l users)
    (numbered : ∀ (j : Nat) (entry : VirtualUser τ β × Option Outcome),
      users[j]? = some entry → entry.1.vu = j)
    {i : Nat} {user : VirtualUser τ β} {outcome : Option Outcome}
    (found : users[i]? = some (user, outcome)) {stage : VirtualUser.Stage τ β}
    (deal : Deal body user.vu l user.stage stage l') (stays : stage ≠ .outside)
    (outcome' : Option Outcome) : Sole l' (users.set i ({ user with stage }, outcome')) := by
  obtain ⟨inside, -⟩ := List.getElem?_eq_some_iff.mp found
  have entered : ∀ o ∈ l.opened, ∃ (j : Nat) (entry : VirtualUser τ β × Option Outcome),
      (users.set i ({ user with stage }, outcome'))[j]? = some entry ∧
        (entry.1.vu : Int) = o.1 ∧ entry.1.stage ≠ .outside := by
    intro o member
    obtain ⟨j, entry, placed, mine, entered⟩ := sole.entered o member
    -- The user whose turn it was has entered now; the others are in their places.
    by_cases here : i = j
    · subst here
      obtain rfl : entry = (user, outcome) := Option.some.inj (placed.symm.trans found)
      exact ⟨i, _, List.getElem?_set_self inside, mine, stays⟩
    · exact ⟨j, entry, (List.getElem?_set_ne here).trans placed, mine, entered⟩
  rcases opened_deal deal with same | ⟨outside, more⟩
  · exact ⟨same ▸ sole.distinct, same ▸ entered⟩
  · refine ⟨?_, ?_⟩
    · rw [more]
      refine List.nodup_cons.mpr ⟨?_, sole.distinct⟩
      intro listed
      -- Whoever opened a session in this name has entered, and is in the place of this user.
      obtain ⟨o, member, same⟩ := List.mem_map.mp listed
      obtain ⟨j, entry, placed, mine, entered⟩ := sole.entered o member
      have named : entry.1.vu = user.vu := Int.natCast_inj.mp (mine.trans same)
      obtain rfl : j = i := (numbered j entry placed).symm.trans (named.trans (numbered i _ found))
      obtain rfl : entry = (user, outcome) := Option.some.inj (placed.symm.trans found)
      exact entered outside
    · rw [more]
      intro o member
      rcases List.mem_cons.mp member with rfl | member
      · exact ⟨i, _, List.getElem?_set_self inside, rfl, stays⟩
      · exact entered o member

theorem not_outside_of_stride {iterations : Nat} {stop : Bool} {vu : Nat} {b b' : Books}
    {before after : VirtualUser.Stage τ β} {outcome : Option Outcome}
    (stride : Stride body iterations stop vu b before after b' outcome) : after ≠ .outside := by
  cases stride <;> nofun

theorem numbered_of_sound {s : RunState τ β} (sound : RunView.Sound plan s.view) (j : Nat)
    (entry : VirtualUser τ β × Option Outcome) (placed : (roster s.view.crew)[j]? = some entry) :
    entry.1.vu = j := by
  have fits := sound.users j
  rw [placed] at fits
  exact fits.1

theorem map_roster (s : RunState τ β) :
    (roster s.view.crew).map Prod.fst = s.workers.map Worker.state := by
  simp [roster, State.view, Worker.standing]

theorem nodup_vus {s : RunState τ β} (sound : RunView.Sound plan s.view) :
    ((s.workers.map Worker.state).map fun user => (user.vu : Int)).Nodup := by
  -- The worker of a place is the user with its number.
  have vus : (s.workers.map Worker.state).map VirtualUser.vu = List.range s.workers.length := by
    apply List.ext_getElem (by simp)
    intro i inside _
    have inside : i < s.workers.length := by simpa using inside
    have named := numbered_of_sound sound i _
      (mem_roster.mpr ⟨_, List.getElem?_eq_getElem inside, rfl, rfl⟩)
    simpa using named
  have cast : (s.workers.map Worker.state).map (fun user => (user.vu : Int)) =
      ((s.workers.map Worker.state).map VirtualUser.vu).map Nat.cast :=
    List.map_map.symm
  rw [cast, vus]
  exact List.nodup_range.map Nat.cast_injective

end Sole

/-! ### Sessions -/

theorem ledger_of_history {w w' : World τ} {now : τ} {dismissed : List Nat}
    (untouched : Untouched w w')
    (history : ∃ latest, w'.history = latest ++ w.history ∧
      ∀ event ∈ latest, event.ByDirector now dismissed) : w'.ledger = w.ledger := by
  obtain ⟨latest, wrote, mine⟩ := history
  -- The director opens no sessions.
  have opened : latest.filterMap Event.opened? = [] := by
    rw [List.filterMap_eq_nil_iff]
    intro event member
    have may := mine event member
    cases event with
    | opened vu session => exact may.elim
    | _ => rfl
  simp only [World.ledger, wrote, List.filterMap_append, opened, untouched.collector,
    untouched.transport, List.nil_append]

section Sessions

variable [Scalar τ] (plan : Plan τ) (body : Body τ β)

/-- A session comes to a point, and on the way its users make some checks, in this order. -/
inductive Performs (start : RunState τ β) : List CheckResult → RunState τ β → Prop
  | start : Performs start [] start
  | turn {done : List CheckResult} {s : RunState τ β} (before : Performs start done s) (i : Nat)
      (w : Worker (VirtualUser τ β)) (found : s.workers[i]? = some w)
      (active : w.outcome? = none) :
      Performs start (done ++ w.state.stage.evaluated body w.state.vu)
        (runWorker (system plan body) s i)
  /-- Whatever else happens makes no checks. -/
  | other {done : List CheckResult} {s t : RunState τ β} (before : Performs start done s)
      (happens : Happens plan body s t)
      (noTurn : ∀ i w, s.workers[i]? = some w → w.outcome? = none →
        t ≠ runWorker (system plan body) s i) :
      Performs start done t

variable {plan body}

theorem reaches_of_performs {start t : RunState τ β} {done : List CheckResult}
    (performs : Performs plan body start done t) : Reaches plan body start t := by
  induction performs with
  | start => exact .refl
  | turn before i w found active ih => exact ih.tail (.moved (.worker i w found active))
  | other before happens noTurn ih => exact ih.tail happens

theorem performs_of_reaches {start t : RunState τ β} (reaches : Reaches plan body start t) :
    ∃ done, Performs plan body start done t := by
  induction reaches with
  | refl => exact ⟨[], .start⟩
  | @tail s t earlier happens ih =>
    obtain ⟨done, before⟩ := ih
    -- Whether an event was a turn of a user is decided here, as only a turn makes checks.
    by_cases turn : ∃ i w, s.workers[i]? = some w ∧ w.outcome? = none ∧
        t = runWorker (system plan body) s i
    · obtain ⟨i, w, found, active, rfl⟩ := turn
      exact ⟨_, before.turn i w found active⟩
    · exact ⟨done, before.other happens fun i w found active same =>
        turn ⟨i, w, found, active, same⟩⟩

/-- What is no turn of a user leaves the ledger alone, and hires only users that have not entered.
-/
theorem ledger_of_happens {s t : RunState τ β} (happens : Happens plan body s t)
    (noTurn : ∀ i w, s.workers[i]? = some w → w.outcome? = none →
      t ≠ runWorker (system plan body) s i) :
    t.world.ledger = s.world.ledger ∧ ∃ hired : List (VirtualUser τ β),
      (∀ user ∈ hired, user.stage = .outside) ∧
      roster t.view.crew = roster s.view.crew ++ hired.map fun user => (user, none) := by
  obtain ⟨untouched, ⟨dismissed, history⟩, hired⟩ := aside_of_happens plan body happens noTurn
  exact ⟨ledger_of_history untouched history, hired⟩

variable (plan body) in
theorem deal_turn {s : RunState τ β} {i : Nat} {w : Worker (VirtualUser τ β)}
    (found : s.workers[i]? = some w) (active : w.outcome? = none) :
    Deal body w.state.vu s.world.ledger w.state.stage (turnOf plan body s w).state.stage
      (runWorker (system plan body) s i).world.ledger := by
  rw [world_runWorker plan body found active]
  exact deal_work plan body s.glance s.world w.state _

/-- At every point of a session requests and checks are conserved. -/
theorem conserves_performs {idle : Nat → List Request} {s t : RunState τ β}
    {done : List CheckResult} (start : Conserves idle s.world.ledger (roster s.view.crew) [])
    (performs : Performs plan body s done t) :
    Conserves idle t.world.ledger (roster t.view.crew) done := by
  induction performs with
  | start => exact start
  | @turn done s before i w found active ih =>
    -- The outcome that is kept in the roster is that of the turn, whatever it is.
    rw [roster_runWorker plan body found active]
    have turn := ih.turn (mem_roster.mpr ⟨w, found, rfl, active⟩) (deal_turn plan body found active)
      (turnOf plan body s w).pause.outcome?
    rwa [← state_turnOf plan body s w] at turn
  | other before happens noTurn ih =>
    obtain ⟨ledger, hired, outside, crew⟩ := ledger_of_happens happens noTurn
    rw [ledger, crew]
    exact ih.hire outside

theorem sole_of_happens {s t : RunState τ β} (sound : RunView.Sound plan s.view)
    (sole : Sole s.world.ledger (roster s.view.crew)) (happens : Happens plan body s t) :
    Sole t.world.ledger (roster t.view.crew) := by
  by_cases turn : ∃ i w, s.workers[i]? = some w ∧ w.outcome? = none ∧
      t = runWorker (system plan body) s i
  · obtain ⟨i, w, found, active, rfl⟩ := turn
    obtain ⟨-, stride⟩ := stride_work plan body s.glance s.world w.state
      (if w.dismissed then .dismissed else .elapsed)
    have turned := sole.turn (numbered_of_sound sound) (mem_roster.mpr ⟨w, found, rfl, active⟩)
      (deal_turn plan body found active) (not_outside_of_stride stride)
      (turnOf plan body s w).pause.outcome?
    rw [roster_runWorker plan body found active]
    rwa [← state_turnOf plan body s w] at turned
  · obtain ⟨ledger, hired, -, crew⟩ := ledger_of_happens happens
      fun i w found active same => turn ⟨i, w, found, active, same⟩
    rw [ledger, crew]
    -- Who has opened a session is still in the same place when others are hired.
    refine ⟨sole.distinct, ?_⟩
    intro o member
    obtain ⟨i, entry, found, entered⟩ := sole.entered o member
    obtain ⟨inside, -⟩ := List.getElem?_eq_some_iff.mp found
    exact ⟨i, entry, (List.getElem?_append_left inside).trans found, entered⟩

theorem sole_reaches (tasks : List Task) (once : tasks.count .run ≤ 1) (transport : Transport τ)
    (now : τ) {s : RunState τ β} (reaches : Reaches plan body (initial tasks transport now) s) :
    Sole s.world.ledger (roster s.view.crew) := by
  induction reaches with
  | refl => exact ⟨.nil, List.forall_mem_nil _⟩
  | @tail s t earlier happens ih =>
    exact sole_of_happens (sound_reaches plan body tasks once transport now s earlier) ih happens

/-! ### Summaries -/

/-- What a summary counts that is taken of a world with some users, after they made some checks. -/
structure Conserved (tasks : List Task) (transport : Transport τ) (w : World τ)
    (users : List (VirtualUser τ β)) (done : List CheckResult) (summary : Summary τ) : Prop where
  /-- What came in on the sessions of users was measured once, for its user, or is under way. -/
  requests : w.ledger.received.Perm
    (w.collector.requests.map Metric.brief ++ users.filterMap fun user => user.stage.pending?)
  byUser : ∀ vu : Int, (w.ledger.receivedOf vu).length =
    w.collector.requests.countP (·.vu = vu) +
      users.countP fun user => (user.vu : Int) = vu ∧ user.stage.pending?.isSome
  /-- With one run, a user has one session, and one request under way at most. -/
  alone : tasks.count .run ≤ 1 → ∀ user ∈ users, ∀ session,
    ((user.vu : Int), session) ∈ w.ledger.opened → (w.ledger.carriedBy session).length =
      w.collector.requests.countP (·.vu = (user.vu : Int)) +
        if user.stage.pending?.isSome then 1 else 0
  /-- No other session carried anything more. -/
  idle : ∀ session, session ∉ w.ledger.opened.map Prod.snd →
    w.ledger.carriedBy session = ({ transport } : World τ).ledger.carriedBy session
  total : summary.totalRequests = w.collector.requests.length
  statuses : summary.totalRequests =
    summary.requestErrors + Summary.total summary.statusCounts.values
  checks : w.collector.checks = done
  tallies : ∀ label, summary.checks.find? label =
    if (done.map CheckResult.seen).count (label, true) = 0 ∧
        (done.map CheckResult.seen).count (label, false) = 0 then none
    else some
      { name := label
        passes := (done.map CheckResult.seen).count (label, true)
        fails := (done.map CheckResult.seen).count (label, false) }

/-- Every report was made at a point of the session, after some of the checks. -/
theorem report_performed {s t : RunState τ β} {done : List CheckResult}
    (empty : s.supervisor.reports = []) (performs : Performs plan body s done t)
    {report : Report τ} (member : report ∈ t.supervisor.reports) :
    ∃ a b earlier later, done = earlier ++ later ∧ Performs plan body s earlier a ∧
      Happens plan body a b ∧ Performs plan body b later t ∧
      b.supervisor.reports = report :: a.supervisor.reports ∧
      ∀ result, report.ending = .result result → Completes plan a.world report result := by
  -- By induction on the course: a report that was there before was made before.
  induction performs with
  | start =>
    rw [empty] at member
    cases member
  | @turn done s' before i w found active ih =>
    -- A turn of a user makes no report.
    have same : (runWorker (system plan body) s' i).supervisor = s'.supervisor :=
      congrArg View.supervisor (view_runWorker (system plan body) s' i w found active)
    rw [same] at member
    obtain ⟨a, b, earlier, later, split, first, made, rest, reports⟩ := ih member
    refine ⟨a, b, earlier, _, ?_, first, made, rest.turn i w found active, reports⟩
    rw [split, List.append_assoc]
  | @other done s' t' before happens noTurn ih =>
    have earlier (member : report ∈ s'.supervisor.reports) :
        ∃ a b earlier later, done = earlier ++ later ∧ Performs plan body s earlier a ∧
          Happens plan body a b ∧ Performs plan body b later t' ∧
          b.supervisor.reports = report :: a.supervisor.reports ∧
          ∀ result, report.ending = .result result → Completes plan a.world report result := by
      obtain ⟨a, b, earlier, later, split, first, made, rest, reports⟩ := ih member
      exact ⟨a, b, earlier, later, split, first, made, rest.other happens noTurn, reports⟩
    -- A report is either one that was made before, or the one that this event made.
    rcases reports_of_happens plan body happens with same | ⟨latest, more, completes⟩
    · exact earlier (same ▸ member)
    · rw [more] at member
      rcases List.mem_cons.mp member with rfl | member
      · exact ⟨s', t', done, [], (List.append_nil _).symm, before, happens, .start, more,
          completes⟩
      · exact earlier member

theorem conserved_of_conserves (tasks : List Task) (transport : Transport τ) {s : RunState τ β}
    {done : List CheckResult}
    (conserves : Conserves ({ transport } : World τ).ledger.carriedBy s.world.ledger
      (roster s.view.crew) done)
    (single : tasks.count .run ≤ 1 →
      Sole s.world.ledger (roster s.view.crew) ∧ RunView.Sound plan s.view) (time : τ) :
    Conserved tasks transport s.world (s.workers.map Worker.state) done
      (s.world.collector.summarize time) := by
  have requests : s.world.ledger.received.Perm (s.world.collector.requests.map Metric.brief ++
      (s.workers.map Worker.state).filterMap fun user => user.stage.pending?) := by
    -- Balance is kept over the roster, which is the workers with their outcomes.
    rw [← map_roster, List.filterMap_map]
    exact conserves.balance
  have owns (user : VirtualUser τ β) (member : user ∈ s.workers.map Worker.state) :
      Owns s.world.ledger user.vu user.stage := by
    rw [← map_roster] at member
    obtain ⟨entry, listed, rfl⟩ := List.mem_map.mp member
    exact conserves.owns entry listed
  have byUser (vu : Int) : (s.world.ledger.receivedOf vu).length =
      s.world.collector.requests.countP (·.vu = vu) +
        (s.workers.map Worker.state).countP fun user =>
          (user.vu : Int) = vu ∧ user.stage.pending?.isSome := by
    -- Counting the requests of one user on both sides of the balance, each brief under its user.
    have counted := requests.countP_eq fun brief => decide (brief.1 = vu)
    rw [Ledger.countP_received, List.countP_append, List.countP_map, List.countP_filterMap]
      at counted
    rw [counted]
    refine congrArg _ (List.countP_congr ?_)
    intro user member
    cases under : user.stage.pending? with
    | none => simp
    | some brief => simp [(owns user member).pending brief under]
  refine ⟨requests, byUser, ?_, conserves.orderly.idle, rfl, ?_, conserves.checks, ?_⟩
  · intro once user member session opened
    obtain ⟨sole, sound⟩ := single once
    -- Its one session is all that it received, and it is counted once among the users.
    rw [← Ledger.receivedOf_eq sole.distinct opened, byUser user.vu]
    exact congrArg _ (countP_of_nodup (nodup_vus sound) member fun user =>
      user.stage.pending?.isSome)
  · exact Collector.length_eq_total s.world.collector.requests
  · intro label
    rw [← conserves.checks]
    exact Collector.find?_tally s.world.collector.checks label

variable (plan body) in
/-- Whenever a run gives a result, its summary counts just what was measured and checked until it
was taken, and that balances with what the transport received. -/
theorem conserved_of_performs (tasks : List Task) (transport : Transport τ) (now : τ)
    (s : RunState τ β) (done : List CheckResult)
    (performs : Performs plan body (initial tasks transport now) done s) (report : Report τ)
    (member : report ∈ s.supervisor.reports) (result : RunResult τ)
    (ending : report.ending = .result result) :
    ∃ (a b : RunState τ β) (earlier later : List CheckResult) (summary : Summary τ),
      done = earlier ++ later ∧ Performs plan body (initial tasks transport now) earlier a ∧
      Happens plan body a b ∧ Performs plan body b later s ∧
      b.supervisor.reports = report :: a.supervisor.reports ∧ result.summary = some summary ∧
      summary = a.world.collector.summarize result.duration ∧
      Conserved tasks transport a.world (a.workers.map Worker.state) earlier summary := by
  -- The result was made at some point of the session, and the balance holds at that one.
  obtain ⟨a, b, earlier, later, split, first, made, rest, reports, completes⟩ :=
    report_performed rfl performs member
  have reaches := reaches_of_performs first
  have conserves : Conserves ({ transport } : World τ).ledger.carriedBy a.world.ledger
      (roster a.view.crew) earlier :=
    conserves_performs (.initial transport) first
  have single (once : tasks.count .run ≤ 1) :
      Sole a.world.ledger (roster a.view.crew) ∧ RunView.Sound plan a.view :=
    ⟨sole_reaches tasks once transport now reaches,
      sound_reaches plan body tasks once transport now a reaches⟩
  exact ⟨a, b, earlier, later, _, split, first, made, rest, reports,
    (completes result ending).summary, rfl,
    conserved_of_conserves tasks transport conserves single result.duration⟩

end Sessions

/-! ### A tireless user -/

namespace Tireless

def plan : Plan Rat :=
  { scenario := "tireless", options := { vus := 1, iterations := 1, maxDuration := 1 },
    requestTimeout := 0 }

/-- It makes a check, and then sends one request after another, even when it is cancelled. -/
def body : Body Rat Unit :=
  { start := fun _ _ => ()
    respond := fun _ cue =>
      { move := match cue with
          | .began => .check .statusless [("fine", Predicate.always true)]
          | _ => .get "/slow" [] none
        state := () } }

/-- Every response takes longer than the run. -/
def transport : Transport Rat :=
  { replies := [{ delay := some 1000 }] }

def after (steps : Nat) : RunState Rat Unit :=
  conduct (system plan body) steps (initial [.run] transport 0)

/-- It has a request under way when the summary is taken that counts the other one. -/
theorem conserved_tireless :
    ((after 24).world.ledger.receivedOf 0).length = 2 ∧
    ∃ report ∈ (after 24).supervisor.reports, ∃ result, report.ending = .result result ∧
      ∃ (a : RunState Rat Unit) (earlier : List CheckResult) (summary : Summary Rat),
        Performs plan body (initial [.run] transport 0) earlier a ∧
          result.summary = some summary ∧ summary.totalRequests = 1 ∧
          Conserved [.run] transport a.world (a.workers.map Worker.state) earlier summary := by
  -- It runs until the summary was made, and is looked at there.
  have gives : ((after 24).supervisor.reports.any fun report =>
      match report.ending with
      | .result result => result.summary.any fun summary => summary.totalRequests = 1
      | _ => false) = true := by decide +kernel
  obtain ⟨done, performs⟩ := performs_of_reaches
    (reaches_conduct plan body 24 _ (inTurn_initial [.run] transport 0)).1
  obtain ⟨report, member, ends⟩ := List.any_eq_true.mp gives
  cases ending : report.ending with
  | result result =>
    obtain ⟨a, -, earlier, -, summary, -, first, -, -, -, taken, -, conserved⟩ :=
      conserved_of_performs plan body [.run] transport 0 _ done performs report member result ending
    rw [ending] at ends
    dsimp only at ends
    rw [taken] at ends
    exact ⟨by decide +kernel, report, member, result, ending, a, earlier, summary, first, taken,
      of_decide_eq_true ends, conserved⟩
  | _ => simp [ending] at ends

end Tireless

end Run

end Volley
