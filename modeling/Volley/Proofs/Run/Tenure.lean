import Mathlib.Algebra.Order.Ring.Rat
import Volley.Proofs.Run.Ledger

/-!
# The tenure of a session

Every user that starts has a session of the transport created for it, and shares it with nobody: the
session carries what the bodies of this user issue, and nothing else. The user holds it from its
first turn to its last and closes it on its way out, whatever the reason. If a fault strikes when
the session is opened, the user ends and the session stays unused. So when all users have ended, no
session that was opened is left open.

The argument follows the deeds of users, each of them told together with the place of the worker
that did it. What a turn does to the sessions depends on its deed only.

## Main definitions

- `Run.Chronicle`: a session comes to a point, and its workers tell something on the way.
- `Run.Deed`, `Run.deeds`: what users do with the transport.
- `Run.Usage`: what a turn of a user does to the sessions.
- `Run.Tenure`: where a user stands with its session.
- `Run.Private`: the invariant.

## Main results

- `usage_work`: every turn of a user is a usage.
- `private_of_chronicle`: the invariant holds at every point of a session.
- `sessions_private`: sessions have one user each, and do not leak.
-/

namespace Volley

/-- The request that a move makes of a client. -/
def Move.request? {τ : Type} (client : Http.Client τ) : Move τ → Option Http.Request
  | .get path headers _ => some (client.request path headers)
  | _ => none

namespace Run

open Http Pool

variable {τ β : Type}

/-! ### What workers tell -/

section Chronicle

variable [Scalar τ] (plan : Plan τ) (body : Body τ β) {α : Type}
  (tells : RunState τ β → Nat → Worker (VirtualUser τ β) → List α)

/-- A session comes to a point, and on the way its workers tell something in each of their turns. -/
inductive Chronicle (start : RunState τ β) : List α → RunState τ β → Prop
  | start : Chronicle start [] start
  | turn {told : List α} {s : RunState τ β} (before : Chronicle start told s) (i : Nat)
      (w : Worker (VirtualUser τ β)) (found : s.workers[i]? = some w)
      (active : w.outcome? = none) :
      Chronicle start (told ++ tells s i w) (runWorker (system plan body) s i)
  /-- Whatever else happens, no worker tells anything. -/
  | other {told : List α} {s t : RunState τ β} (before : Chronicle start told s)
      (happens : Happens plan body s t)
      (noTurn : ∀ i w, s.workers[i]? = some w → w.outcome? = none →
        t ≠ runWorker (system plan body) s i) :
      Chronicle start told t

/-- Every way to a point of a session is told in some chronicle. -/
theorem chronicle_of_reaches {start t : RunState τ β} (reaches : Reaches plan body start t) :
    ∃ told, Chronicle plan body tells start told t := by
  -- Induction on the way, from its end: the last thing that happened is a turn or something else.
  induction reaches with
  | refl => exact ⟨[], .start⟩
  | @tail s t earlier happens ih =>
    obtain ⟨told, before⟩ := ih
    by_cases turn : ∃ i w, s.workers[i]? = some w ∧ w.outcome? = none ∧
        t = runWorker (system plan body) s i
    · obtain ⟨i, w, found, active, rfl⟩ := turn
      exact ⟨_, before.turn i w found active⟩
    · exact ⟨told, before.other happens fun i w found active same =>
        turn ⟨i, w, found, active, same⟩⟩

end Chronicle

/-! ### Deeds -/

/-- What a user does with the transport. -/
inductive Deed where
  | connected
  | sent (request : Request)
  | closed
  deriving DecidableEq

namespace VirtualUser.Stage

/-- The request that the body of a user issues in its next turn. -/
def issued? (body : Body τ β) : VirtualUser.Stage τ β → Option Request
  | .inside client _ (.cued state cue) => (body.respond state cue).move.request? client
  | _ => none

/-- What a user does with the transport in a turn that takes it from one stage to another: one that
has a client issues a request or gives its client up, one that is not dismissed before it starts
connects. -/
def deed? (body : Body τ β) (wake : Wake) (before after : VirtualUser.Stage τ β) : Option Deed :=
  match before.client? with
  | some _ =>
    ((before.issued? body).map .sent).or (if after.client?.isNone then some .closed else none)
  | none =>
    match before, wake with
    | .outside, .elapsed => some .connected
    | _, _ => none

end VirtualUser.Stage

/-- What a worker does with the transport in its turn, with its place. -/
def deeds [Scalar τ] (plan : Plan τ) (body : Body τ β) (s : RunState τ β) (i : Nat)
    (w : Worker (VirtualUser τ β)) : List (Nat × Deed) :=
  ((w.state.stage.deed? body (if w.dismissed then .dismissed else .elapsed)
    (turnOf plan body s w).state.stage).map (i, ·)).toList

/-- What a turn of a user does to the sessions of the transport. -/
inductive Usage (timeout : τ) (t t' : Transport τ) :
    VirtualUser.Stage τ β → Option Deed → VirtualUser.Stage τ β → Option Outcome → Prop
  /-- It is dismissed before it starts. -/
  | missed (outcome : Outcome) (same : t'.sessions = t.sessions) :
      Usage timeout t t' .outside none .gone (some outcome)
  | refused (outcome : Outcome)
      (struck : Transport.planned t.connectFault t.sessions.length ≠ none)
      (created : t'.sessions = t.sessions ++ [{ timeout := timeout }]) :
      Usage timeout t t' .outside (some .connected) .gone (some outcome)
  | opened (client : Client τ) (mine : client.session = some t.sessions.length)
      (free : Transport.planned t.connectFault t.sessions.length = none)
      (created : t'.sessions = t.sessions ++ [{ timeout := timeout }]) :
      Usage timeout t t' .outside (some .connected) (.between client) none
  | sent {before after : VirtualUser.Stage τ β} (client : Client τ) (session : Nat)
      (request : Request) (has : before.client? = some client) (keeps : after.client? = some client)
      (mine : client.session = some session)
      (carried : t'.sessions =
        t.sessions.modify session fun s => { s with requests := s.requests ++ [request] }) :
      Usage timeout t t' before (some (.sent request)) after none
  | held {before after : VirtualUser.Stage τ β} (client : Client τ)
      (has : before.client? = some client) (keeps : after.client? = some client)
      (same : t'.sessions = t.sessions) : Usage timeout t t' before none after none
  | left {before : VirtualUser.Stage τ β} (client : Client τ) (session : Nat) (outcome : Outcome)
      (has : before.client? = some client) (mine : client.session = some session)
      (shut : t'.sessions = t.sessions.modify session fun s => { s with closed := true }) :
      Usage timeout t t' before (some .closed) .gone (some outcome)
  | gone (outcome : Outcome) : Usage timeout t t' .gone none .gone (some outcome)

/-! ### Turns of users -/

section Turns

variable {timeout : τ}

/-- To exit is to close the session of the client, also where the closing fails. -/
theorem sessions_exit {c : Client τ} {session : Nat} (mine : c.session = some session)
    (t : Transport τ) :
    (c.exit t).2.sessions = t.sessions.modify session fun s => { s with closed := true } := by
  rw [transport_exit, mine]
  rfl

/-- A user that leaves closes its session, whatever its reason. -/
theorem usage_leave {before : VirtualUser.Stage τ β} {client : Client τ} {session : Nat}
    (has : before.client? = some client) (mine : client.session = some session)
    (user : VirtualUser τ β) {t : Transport τ} {w : World τ}
    (same : w.transport.sessions = t.sessions) (outcome : Outcome) :
    Usage timeout t (user.leave w client outcome).world.transport before (some .closed)
      (user.leave w client outcome).state.stage (user.leave w client outcome).pause.outcome? := by
  have shut := sessions_exit mine w.transport
  rw [same] at shut
  -- Closing may itself fail, so the user need not end in `outcome`.
  obtain ⟨-, state, ended⟩ := leave_eq user w client outcome
  rw [state]
  rcases ended with pause | ⟨fault, pause⟩
  · rw [pause]
    exact .left client session outcome has mine shut
  · rw [pause]
    exact .left client session (.failed fault) has mine shut

/-- After an iteration a user keeps its client, or leaves and gives it up. -/
theorem usage_conclude (g : Glance τ) {w : World τ} {t : Transport τ} (user : VirtualUser τ β)
    (client : Client τ) (iteration : Nat) (stage : Iteration.Stage τ β) (wake : Wake)
    (fault : Option Fault) {session : Nat} (mine : client.session = some session)
    (same : w.transport.sessions = t.sessions) {body : Body τ β}
    (quiet : (VirtualUser.Stage.inside client iteration stage).issued? body = none) :
    let turn := VirtualUser.conclude g w user client iteration fault
    Usage timeout t turn.world.transport (.inside client iteration stage)
      ((VirtualUser.Stage.inside client iteration stage).deed? body wake turn.state.stage)
      turn.state.stage turn.pause.outcome? := by
  -- Either the user keeps its client, or it leaves.
  unfold VirtualUser.Stage.deed?
  dsimp only [VirtualUser.Stage.client?]
  rw [quiet]
  unfold VirtualUser.conclude
  dsimp only
  split
  · exact .held client rfl rfl same
  next f =>
    split
    · exact .held client rfl rfl same
    · exact usage_leave rfl mine user same _

/-- What follows an answer changes the collector and the log, but not the transport. -/
theorem transport_follow (w : World τ) (state : β) (progress : Progress τ) :
    (Iteration.follow w state progress).world.transport = w.transport := by
  unfold Iteration.follow
  split
  · rfl
  · dsimp only
    split <;> rfl

theorem transport_recordChecks (w : World τ) (report : Checks.Report) :
    (Iteration.recordChecks w report).transport = w.transport := by
  -- One remark for each predicate that raised, then one call for each result.
  have remarked : (report.raised.foldl (fun w label => w.log (.checkRaised label)) w).transport =
      w.transport :=
    foldl_kept World.transport _ (fun _ _ => by rfl) report.raised w
  exact (foldl_kept World.transport _ (fun _ _ => by rfl) report.delivered _).trans remarked

theorem transport_requestStop (w : World τ) : w.requestStop.2.transport = w.transport :=
  (untouched_requestStop w).transport

theorem transport_note (w : World τ) (vu : Int) (time : τ) (notes : List Note) :
    (w.note vu time notes).transport = w.transport :=
  foldl_kept World.transport _ (fun _ _ => by rfl) notes w

variable [Scalar τ] (client : Client τ) (g : Glance τ) (w : World τ)

/-- A move that makes no request does nothing with the transport. -/
theorem transport_perform (iteration : Int) (state : β) {move : Move τ}
    (other : move.request? client = none) :
    (Iteration.perform client iteration g w state move).world.transport = w.transport := by
  cases move with
  | get path headers name => cases other
  | check subject checks =>
    unfold Iteration.perform
    dsimp only
    split <;> exact transport_recordChecks w _
  | stop => exact transport_requestStop w
  | _ => rfl

/-- A request goes out on the session of its client, and the iteration goes on. -/
theorem sessions_perform (iteration : Int) (state : β) {move : Move τ} {request : Request}
    {session : Nat} (asks : move.request? client = some request)
    (mine : client.session = some session) :
    (∃ next pause,
      (Iteration.perform client iteration g w state move).next = .going next pause) ∧
    (Iteration.perform client iteration g w state move).world.transport.sessions =
      w.transport.sessions.modify session
        fun s => { s with requests := s.requests ++ [request] } := by
  cases move with
  | get path headers name =>
    cases asks
    -- With a session in hand the request is recorded before anything is known of its fate.
    rw [perform_get mine]
    refine ⟨?_, congrArg Transport.sessions (transport_follow _ _ _)⟩
    unfold Iteration.follow
    split
    · exact ⟨_, _, rfl⟩
    · dsimp only
      split <;> exact ⟨_, _, rfl⟩
  | _ => cases asks

/-- A step of an iteration sends nothing, or it sends the one request that its body issued. -/
theorem sessions_step (body : Body τ β) (iteration : Nat) (stage : Iteration.Stage τ β)
    (wake : Wake) {session : Nat} (mine : client.session = some session) :
    (VirtualUser.Stage.inside client iteration stage).issued? body = none ∧
      (Iteration.step body client iteration g w stage wake).world.transport.sessions =
        w.transport.sessions ∨
    ∃ request, (VirtualUser.Stage.inside client iteration stage).issued? body = some request ∧
      (∃ next pause,
        (Iteration.step body client iteration g w stage wake).next = .going next pause) ∧
      (Iteration.step body client iteration g w stage wake).world.transport.sessions =
        w.transport.sessions.modify session
          fun s => { s with requests := s.requests ++ [request] } := by
  -- Only a body that is called can issue a request; whoever wakes up from a pause has done so
  -- before.
  cases stage with
  | cued state cue =>
    have noted := transport_note w client.vu g.now (body.respond state cue).notes
    cases asks : (body.respond state cue).move.request? client with
    | none =>
      have same := transport_perform client g
        (w.note client.vu g.now (body.respond state cue).notes) iteration
        (body.respond state cue).state asks
      exact .inl ⟨asks, congrArg Transport.sessions (same.trans noted)⟩
    | some request =>
      have sent := sessions_perform client g
        (w.note client.vu g.now (body.respond state cue).notes) iteration
        (body.respond state cue).state asks mine
      rw [noted] at sent
      exact .inr ⟨request, asks, sent⟩
  | resting state => cases wake <;> exact .inl ⟨rfl, rfl⟩
  | requesting state flight =>
    cases wake <;> exact .inl ⟨rfl, congrArg Transport.sessions (transport_follow _ _ _)⟩

omit [Scalar τ] in
/-- A user that enters connects, whether it gets its session or not. -/
theorem usage_enter (plan : Plan τ) (user : VirtualUser τ β) :
    let turn := VirtualUser.enter plan w user
    Usage plan.requestTimeout w.transport turn.world.transport .outside (some .connected)
      turn.state.stage turn.pause.outcome? := by
  -- The session is created in either case, before the fault strikes.
  have created := congrArg Transport.sessions (transport_connect w.transport plan.requestTimeout)
  dsimp only
  rcases enter_cases plan w user with ⟨fault, struck, entered⟩ | ⟨free, entered⟩
  · rw [entered]
    exact .refused _ (by simp [struck]) created
  · rw [entered]
    exact .opened _ rfl free created

omit [Scalar τ] in
/-- Between iterations a user keeps its client or gives it up. -/
theorem usage_claim (plan : Plan τ) (body : Body τ β) (user : VirtualUser τ β) {session : Nat}
    (mine : client.session = some session) :
    let turn := VirtualUser.claim plan body g w user client
    Usage plan.requestTimeout w.transport turn.world.transport (.between client)
      ((VirtualUser.Stage.between client).deed? body .elapsed turn.state.stage)
      turn.state.stage turn.pause.outcome? := by
  -- There are two ways to leave, and the user does the same in both: the run is not on, or all is
  -- claimed.
  have leaves : Usage plan.requestTimeout w.transport
      (user.leave w client .returned).world.transport (.between client) (some .closed)
      (user.leave w client .returned).state.stage
      (user.leave w client .returned).pause.outcome? := usage_leave rfl mine user rfl .returned
  unfold VirtualUser.claim World.claim
  dsimp only
  split
  · exact leaves
  · by_cases free : w.claimed < plan.options.iterations
    · rw [if_pos free]
      exact .held client rfl rfl rfl
    · rw [if_neg free]
      exact leaves

/-- Inside an iteration a user sends at most one request, or the iteration ends without one. -/
theorem usage_inside (plan : Plan τ) (body : Body τ β) (vu iteration : Nat)
    (stage : Iteration.Stage τ β) (wake : Wake) {session : Nat}
    (mine : client.session = some session) :
    let turn := VirtualUser.work plan body g w ⟨vu, .inside client iteration stage⟩ wake
    Usage plan.requestTimeout w.transport turn.world.transport (.inside client iteration stage)
      ((VirtualUser.Stage.inside client iteration stage).deed? body wake turn.state.stage)
      turn.state.stage turn.pause.outcome? := by
  -- A request never ends the iteration in the turn that sends it, so the cases do not mix.
  unfold VirtualUser.work
  dsimp only
  rcases sessions_step client g w body iteration stage wake mine with
    ⟨quiet, same⟩ | ⟨request, issued, ⟨next, pause, goes⟩, sent⟩
  · split
    next next pause goes =>
      have open_ := outcome_step body client iteration g w stage next wake pause goes
      dsimp only
      rw [open_]
      unfold VirtualUser.Stage.deed?
      dsimp only [VirtualUser.Stage.client?]
      rw [quiet]
      exact .held client rfl rfl same
    next fault ends =>
      exact usage_conclude g _ client iteration stage wake fault mine same quiet
  · rw [goes]
    have open_ := outcome_step body client iteration g w stage next wake pause goes
    dsimp only
    rw [open_]
    unfold VirtualUser.Stage.deed?
    dsimp only [VirtualUser.Stage.client?]
    rw [issued]
    exact .sent client session request rfl rfl mine sent

/-- Every turn of a user is a usage. -/
theorem usage_work (plan : Plan τ) (body : Body τ β) (user : VirtualUser τ β) (wake : Wake)
    (connected : ∀ client, user.stage.client? = some client →
      ∃ session, client.session = some session) :
    Usage plan.requestTimeout w.transport (VirtualUser.work plan body g w user wake).world.transport
      user.stage
      (user.stage.deed? body wake (VirtualUser.work plan body g w user wake).state.stage)
      (VirtualUser.work plan body g w user wake).state.stage
      (VirtualUser.work plan body g w user wake).pause.outcome? := by
  -- Only a stage with a client has a session to speak of, and `connected` names it.
  obtain ⟨vu, stage⟩ := user
  cases stage with
  | outside =>
    cases wake with
    | dismissed => exact .missed _ rfl
    | elapsed => exact usage_enter w plan _
  | between client =>
    obtain ⟨session, mine⟩ := connected client rfl
    cases wake with
    | dismissed => exact usage_leave rfl mine _ rfl _
    | elapsed => exact usage_claim client g w plan body _ mine
  | inside client iteration stage =>
    obtain ⟨session, mine⟩ := connected client rfl
    exact usage_inside client g w plan body vu iteration stage wake mine
  | gone => exact .gone _

end Turns

/-! ### The invariant -/

/-- What the worker of a place did. -/
def deedsOf (told : List (Nat × Deed)) (i : Nat) : List Deed :=
  (told.filter (·.1 = i)).map Prod.snd

/-- The places of the workers that connected, in this order. -/
def starters (told : List (Nat × Deed)) : List Nat :=
  (told.filter (·.2 = .connected)).map Prod.fst

@[simp] theorem deedsOf_append (told more : List (Nat × Deed)) (i : Nat) :
    deedsOf (told ++ more) i = deedsOf told i ++ deedsOf more i := by
  simp [deedsOf]

@[simp] theorem starters_append (told more : List (Nat × Deed)) :
    starters (told ++ more) = starters told ++ starters more := by
  simp [starters]

theorem deedsOf_self (deeds : List Deed) (i : Nat) : deedsOf (deeds.map (i, ·)) i = deeds := by
  simp [deedsOf, List.filter_map, Function.comp_def]

theorem deedsOf_of_ne (deeds : List Deed) {i j : Nat} (ne : i ≠ j) :
    deedsOf (deeds.map (i, ·)) j = [] := by
  simp [deedsOf, List.filter_map, Function.comp_def, ne]

/-- Who does not connect is no starter. -/
theorem starters_of_silent {deeds : List Deed} (silent : .connected ∉ deeds) (i : Nat) :
    starters (deeds.map (i, ·)) = [] := by
  simp only [starters, List.map_eq_nil_iff, List.filter_eq_nil_iff, List.mem_map]
  -- `List.filter` decides the equality of deeds, hence `of_decide_eq_true`.
  rintro _ ⟨deed, member, rfl⟩ same
  exact silent (of_decide_eq_true same ▸ member)

/-- Where a user stands with its session, which a fault may strike when it is opened: what it is
about, how it ended, what it did so far, and the record of the session. -/
inductive Tenure (timeout : τ) (struck : Option Fault) (session : Nat) :
    VirtualUser.Stage τ β → Option Outcome → List Deed → Http.Session τ → Prop
  | refused (outcome : Outcome) (why : struck ≠ none) :
      Tenure timeout struck session .gone (some outcome) [.connected] { timeout := timeout }
  | holds {stage : VirtualUser.Stage τ β} (client : Client τ) (requests : List Request)
      (free : struck = none) (has : stage.client? = some client)
      (mine : client.session = some session) :
      Tenure timeout struck session stage none (.connected :: requests.map .sent)
        { timeout := timeout, requests }
  | left (outcome : Outcome) (requests : List Request) (free : struck = none) :
      Tenure timeout struck session .gone (some outcome)
        (.connected :: requests.map .sent ++ [.closed])
        { timeout := timeout, requests, closed := true }

section Tenure

variable {timeout : τ} {struck : Option Fault} {k : Nat} {stage : VirtualUser.Stage τ β}
  {outcome : Option Outcome} {deeds : List Deed} {session : Http.Session τ}

/-- As long as a user has a client, it holds its session: nothing but requests went out on it. -/
theorem Tenure.of_client (tenure : Tenure timeout struck k stage outcome deeds session)
    {client : Client τ} (has : stage.client? = some client) :
    client.session = some k ∧ struck = none ∧ ∃ requests : List Request,
      deeds = .connected :: requests.map .sent ∧ session = { timeout := timeout, requests } := by
  cases tenure with
  | holds other requests free has' mine =>
    obtain rfl : client = other := Option.some.inj (has.symm.trans has')
    exact ⟨mine, free, requests, rfl, rfl⟩
  | _ => cases has

/-- Nobody is gone without having ended. -/
theorem Tenure.ended_of_gone (tenure : Tenure timeout struck k stage outcome deeds session)
    (gone : stage = .gone) : outcome ≠ none := by
  subst gone
  cases tenure with
  | holds client requests free has mine => cases has
  | _ => nofun

/-- A user that has ended has closed its session, if that was opened. -/
theorem Tenure.closed (tenure : Tenure timeout struck k stage outcome deeds session)
    (ended : outcome ≠ none) (free : struck = none) : session.closed = true := by
  cases tenure with
  | refused outcome why => exact absurd free why
  | holds client requests free has mine => exact absurd rfl ended
  | left outcome requests free => rfl

/-- Who has connected is no longer outside. -/
theorem Tenure.ne_outside (tenure : Tenure timeout struck k stage outcome deeds session) :
    stage ≠ .outside := by
  rintro rfl
  cases tenure with
  | holds client requests free has mine => cases has

end Tenure

/-- Every worker that connected has one of the sessions that were created since, in the same order,
and nobody else did anything with the transport. -/
structure Private (timeout : τ) (transport : Transport τ) (told : List (Nat × Deed))
    (sessions : List (Http.Session τ)) (users : List (VirtualUser τ β × Option Outcome)) :
    Prop where
  once : (starters told).Nodup
  created : sessions.length = transport.sessions.length + (starters told).length
  others : sessions.take transport.sessions.length = transport.sessions
  tenure : ∀ (j i : Nat), (starters told)[j]? = some i → ∃ entry session,
    users[i]? = some entry ∧ sessions[transport.sessions.length + j]? = some session ∧
      Tenure timeout
        (Transport.planned transport.connectFault (transport.sessions.length + j))
        (transport.sessions.length + j) entry.1.stage entry.2 (deedsOf told i) session
  idle : ∀ i, i ∉ starters told → deedsOf told i = [] ∧ ∀ entry, users[i]? = some entry →
    entry.1.stage = .outside ∧ entry.2 = none ∨ entry.1.stage = .gone ∧ entry.2 ≠ none

namespace Private

variable {timeout : τ} {transport t t' : Transport τ} {told : List (Nat × Deed)}
  {sessions : List (Http.Session τ)} {users : List (VirtualUser τ β × Option Outcome)}
  {i : Nat} {user : VirtualUser τ β} {after : VirtualUser.Stage τ β}

/-- At first there is nobody, and the sessions are those that were there before the run. -/
theorem initial (transport : Transport τ) :
    Private timeout transport [] transport.sessions
      ([] : List (VirtualUser τ β × Option Outcome)) := by
  refine ⟨.nil, rfl, List.take_length, ?_, ?_⟩
  · intro j i started
    cases List.mem_of_getElem? started
  · intro i _
    refine ⟨rfl, ?_⟩
    intro entry placed
    cases List.mem_of_getElem? placed

/-- Who is hired has done nothing yet. -/
theorem hire (own : Private timeout transport told sessions users)
    {hired : List (VirtualUser τ β)} (outside : ∀ user ∈ hired, user.stage = .outside) :
    Private timeout transport told sessions
      (users ++ hired.map fun user => (user, none)) := by
  -- Those who are hired come after all others, so no place that is known moves.
  refine { own with tenure := ?_, idle := ?_ }
  · intro j i started
    obtain ⟨entry, session, placed, rest⟩ := own.tenure j i started
    obtain ⟨inside, -⟩ := List.getElem?_eq_some_iff.mp placed
    exact ⟨entry, session, (List.getElem?_append_left inside).trans placed, rest⟩
  · intro i apart
    refine ⟨(own.idle i apart).1, ?_⟩
    intro entry placed
    rw [List.getElem?_append] at placed
    split at placed
    · exact (own.idle i apart).2 entry placed
    · obtain ⟨user, member, rfl⟩ := List.mem_map.mp (List.mem_of_getElem? placed)
      exact .inl ⟨outside user member, rfl⟩

/-- A user that has a client connected before, and holds a session. -/
theorem holding (own : Private timeout transport told sessions users)
    (found : users[i]? = some (user, none)) {client : Client τ}
    (has : user.stage.client? = some client) :
    ∃ (j : Nat) (requests : List Request), (starters told)[j]? = some i ∧
      client.session = some (transport.sessions.length + j) ∧
      Transport.planned transport.connectFault (transport.sessions.length + j) = none ∧
      deedsOf told i = .connected :: requests.map .sent ∧
      sessions[transport.sessions.length + j]? = some { timeout := timeout, requests } := by
  -- The place is a starter's: one that is idle is outside or has ended, and has no client.
  by_cases started : i ∈ starters told
  · obtain ⟨j, placed⟩ := List.getElem?_of_mem started
    obtain ⟨entry, session, there, recorded, tenure⟩ := own.tenure j i placed
    -- One place of the roster has one entry.
    obtain rfl : (user, none) = entry := Option.some.inj (found.symm.trans there)
    obtain ⟨mine, free, requests, did, rfl⟩ := tenure.of_client has
    exact ⟨j, requests, placed, mine, free, did, recorded⟩
  · rcases (own.idle i started).2 _ found with ⟨outside, -⟩ | ⟨-, ended⟩
    · rw [outside] at has
      cases has
    · exact absurd rfl ended

/-- A user that is still outside has not connected. -/
theorem apart_of_outside (own : Private timeout transport told sessions users)
    (found : users[i]? = some (user, none)) (outside : user.stage = .outside) :
    i ∉ starters told := by
  intro started
  obtain ⟨j, placed⟩ := List.getElem?_of_mem started
  obtain ⟨entry, session, there, -, tenure⟩ := own.tenure j i placed
  obtain rfl : (user, none) = entry := Option.some.inj (found.symm.trans there)
  exact tenure.ne_outside outside

/-- On the roster, too, nobody is gone without having ended. -/
theorem ended_of_gone (own : Private timeout transport told sessions users)
    {entry : VirtualUser τ β × Option Outcome} (found : users[i]? = some entry)
    (gone : entry.1.stage = .gone) : entry.2 ≠ none := by
  by_cases started : i ∈ starters told
  · obtain ⟨j, placed⟩ := List.getElem?_of_mem started
    obtain ⟨entry', session, there, -, tenure⟩ := own.tenure j i placed
    obtain rfl : entry = entry' := Option.some.inj (found.symm.trans there)
    exact tenure.ended_of_gone gone
  · rcases (own.idle i started).2 _ found with ⟨outside, -⟩ | ⟨-, ended⟩
    · rw [outside] at gone
      cases gone
    · exact ended

/-- A user that is dismissed before it starts does nothing. -/
theorem miss (own : Private timeout transport told sessions users)
    (found : users[i]? = some (user, none)) (outside : user.stage = .outside) (outcome : Outcome) :
    Private timeout transport told sessions
      (users.set i ({ user with stage := .gone }, some outcome)) := by
  have apart := own.apart_of_outside found outside
  obtain ⟨inside, -⟩ := List.getElem?_eq_some_iff.mp found
  refine { own with tenure := ?_, idle := ?_ }
  · intro j i' placed
    have ne : i ≠ i' := by
      rintro rfl
      exact apart (List.mem_of_getElem? placed)
    -- The place is no starter's, so the tenures are about other places.
    rw [List.getElem?_set_ne ne]
    exact own.tenure j i' placed
  · intro i' apart'
    refine ⟨(own.idle i' apart').1, ?_⟩
    intro entry there
    by_cases here : i = i'
    · subst here
      rw [List.getElem?_set_self inside] at there
      cases there
      exact .inr ⟨rfl, nofun⟩
    · rw [List.getElem?_set_ne here] at there
      exact (own.idle i' apart').2 entry there

/-- A user that connects gets the next session. -/
theorem join (own : Private timeout transport told sessions users)
    (found : users[i]? = some (user, none)) (outside : user.stage = .outside)
    {outcome : Option Outcome}
    (tenure : Tenure timeout (Transport.planned transport.connectFault sessions.length)
      sessions.length after outcome [.connected] { timeout := timeout }) :
    Private timeout transport (told ++ [(i, .connected)])
      (sessions ++ [{ timeout := timeout }])
      (users.set i ({ user with stage := after }, outcome)) := by
  have apart := own.apart_of_outside found outside
  obtain ⟨inside, -⟩ := List.getElem?_eq_some_iff.mp found
  have more : starters (told ++ [(i, .connected)]) = starters told ++ [i] := starters_append _ _
  -- The new session has the number that the list of sessions had as its length.
  refine ⟨?_, ?_, ?_, ?_, ?_⟩
  · -- The place was not among the starters.
    rw [more]
    exact List.nodup_append.mpr ⟨own.once, List.nodup_singleton i, by
      rintro a started _ (_ | ⟨_, ⟨⟩⟩) rfl
      exact apart started⟩
  · have created := own.created
    simp only [more, List.length_append, List.length_singleton]
    omega
  · rw [List.take_append_of_le_length (by have := own.created; omega)]
    exact own.others
  · intro j i' placed
    rw [more, List.getElem?_append] at placed
    split at placed
    next before =>
      have ne : i ≠ i' := by
        rintro rfl
        exact apart (List.mem_of_getElem? placed)
      obtain ⟨entry, session, there, recorded, rest⟩ := own.tenure j i' placed
      obtain ⟨known, -⟩ := List.getElem?_eq_some_iff.mp recorded
      refine ⟨entry, session, (List.getElem?_set_ne ne).trans there,
        (List.getElem?_append_left known).trans recorded, ?_⟩
      have nothing : deedsOf [(i, .connected)] i' = [] := deedsOf_of_ne [.connected] ne
      rw [deedsOf_append, nothing, List.append_nil]
      exact rest
    next behind =>
      -- The place after the last is that of the new session.
      obtain ⟨last, rfl⟩ : j = (starters told).length ∧ i = i' := by
        rw [List.getElem?_singleton] at placed
        split at placed
        · exact ⟨by omega, Option.some.inj placed⟩
        · cases placed
      rw [last, ← own.created]
      refine ⟨_, _, List.getElem?_set_self inside, List.getElem?_concat_length, ?_⟩
      have itself : deedsOf [(i, .connected)] i = [.connected] := deedsOf_self [.connected] i
      rw [deedsOf_append, (own.idle i apart).1, List.nil_append, itself]
      exact tenure
  · intro i' apart'
    rw [more] at apart'
    -- Only this place has become a starter's.
    have ne : i ≠ i' := by
      rintro rfl
      exact apart' (List.mem_append_right _ (.head _))
    obtain ⟨nothing, rest⟩ := own.idle i' fun started => apart' (List.mem_append_left _ started)
    have nothing' : deedsOf [(i, .connected)] i' = [] := deedsOf_of_ne [.connected] ne
    rw [deedsOf_append, nothing, nothing', List.getElem?_set_ne ne]
    exact ⟨rfl, rest⟩

/-- A user that has a client changes its own session only. -/
theorem serve (own : Private timeout transport told sessions users)
    (found : users[i]? = some (user, none)) {client : Client τ}
    (has : user.stage.client? = some client) {session : Nat}
    (mine : client.session = some session) (deeds : List Deed) (silent : .connected ∉ deeds)
    (change : Http.Session τ → Http.Session τ) (outcome : Option Outcome)
    (tenure : ∀ requests : List Request,
      Transport.planned transport.connectFault session = none →
      Tenure timeout (Transport.planned transport.connectFault session) session after outcome
        (.connected :: requests.map .sent ++ deeds) (change { timeout := timeout, requests })) :
    Private timeout transport (told ++ deeds.map (i, ·)) (sessions.modify session change)
      (users.set i ({ user with stage := after }, outcome)) := by
  obtain ⟨j, requests, placed, mine', free, did, recorded⟩ := own.holding found has
  obtain rfl : session = transport.sessions.length + j :=
    Option.some.inj (mine.symm.trans mine')
  obtain ⟨inside, -⟩ := List.getElem?_eq_some_iff.mp found
  have same : starters (told ++ deeds.map (i, ·)) = starters told := by
    rw [starters_append, starters_of_silent silent, List.append_nil]
  refine ⟨same ▸ own.once, by rw [same, List.length_modify]; exact own.created, ?_, ?_, ?_⟩
  · -- What was there at first has lower numbers.
    rw [List.take_modify, own.others]
    apply modify_of_fixed
    intro old there
    rw [List.getElem?_eq_none (Nat.le_add_right _ _)] at there
    cases there
  · rw [same]
    intro j' i' placed'
    by_cases here : i = i'
    · subst here
      obtain ⟨listed, -⟩ := List.getElem?_eq_some_iff.mp placed
      -- Nobody connects twice, so the place has one session.
      obtain rfl : j = j' := (List.getElem?_inj listed own.once).mp (placed.trans placed'.symm)
      refine ⟨_, change { timeout := timeout, requests }, List.getElem?_set_self inside, ?_, ?_⟩
      · rw [List.getElem?_modify_eq, recorded]
        rfl
      · rw [deedsOf_append, did, deedsOf_self]
        exact tenure requests free
    · have other : j ≠ j' := by
        rintro rfl
        exact here (Option.some.inj (placed.symm.trans placed'))
      obtain ⟨entry, session, there, recorded', rest⟩ := own.tenure j' i' placed'
      refine ⟨entry, session, (List.getElem?_set_ne here).trans there, ?_, ?_⟩
      · rw [List.getElem?_modify_ne change sessions (by omega)]
        exact recorded'
      · rw [deedsOf_append, deedsOf_of_ne deeds here, List.append_nil]
        exact rest
  · rw [same]
    intro i' apart
    have ne : i ≠ i' := by
      rintro rfl
      exact apart (List.mem_of_getElem? placed)
    rw [deedsOf_append, deedsOf_of_ne deeds ne, List.append_nil, List.getElem?_set_ne ne]
    exact own.idle i' apart

/-- What a turn of a user does to the sessions keeps them private. -/
theorem turn (own : Private timeout transport told t.sessions users)
    (plans : t.connectFault = transport.connectFault)
    (found : users[i]? = some (user, none)) {deed : Option Deed} {outcome : Option Outcome}
    (usage : Usage timeout t t' user.stage deed after outcome) :
    Private timeout transport (told ++ (deed.map (i, ·)).toList) t'.sessions
      (users.set i ({ user with stage := after }, outcome)) := by
  generalize before : user.stage = stage at usage
  cases usage with
  | missed outcome same =>
    rw [same, Option.map_none, Option.toList_none, List.append_nil]
    exact own.miss found before outcome
  | refused outcome struck created =>
    rw [created]
    exact own.join found before (.refused outcome (plans ▸ struck))
  | opened client mine free created =>
    rw [created]
    exact own.join found before (.holds client [] (plans ▸ free) rfl mine)
  | sent client session request has keeps mine carried =>
    rw [carried]
    -- What was sent before is followed by the request of this turn.
    refine own.serve found (before ▸ has) mine [.sent request] (by simp) _ none ?_
    intro requests free
    have more : Deed.connected :: requests.map Deed.sent ++ [.sent request] =
        .connected :: (requests ++ [request]).map .sent := by simp
    rw [more]
    exact .holds client (requests ++ [request]) free keeps mine
  | held client has keeps same =>
    obtain ⟨j, -, -, mine, -⟩ := own.holding found (before ▸ has)
    -- Nothing changes, which is `serve` with no deeds and no change of the session.
    have kept := own.serve found (before ▸ has) mine [] (by simp) id none fun requests free => by
      rw [List.append_nil]
      exact .holds client requests free keeps mine
    rw [List.modify_id] at kept
    rw [same]
    exact kept
  | left client session outcome has mine shut =>
    rw [shut]
    refine own.serve found (before ▸ has) mine [.closed] (by simp) _ _ ?_
    intro requests free
    exact .left outcome requests free
  | gone outcome =>
    -- A user that is gone has ended before.
    exact absurd rfl (own.ended_of_gone found before)

end Private

/-! ### Sessions -/

section Sessions

variable [Scalar τ] (plan : Plan τ) (body : Body τ β)

/-- Which openings and closings fail is settled for the whole run. -/
theorem plans_of_happens {s t : RunState τ β} (happens : Happens plan body s t) :
    t.world.transport.plans = s.world.transport.plans := by
  cases part_of_happens plan body happens with
  | nobody remarks supervisor crew => rw [remarks.untouched.transport]
  | user i w found active world supervisor crew turn =>
    rw [world]
    exact (writes_work plan body s.glance s.world w.state _).plans
  | director command duty world supervisor crew =>
    rw [world, (untouched_duty plan duty).transport]

variable {plan body}

/-- At every point of a session, sessions are private to their users. -/
theorem private_of_chronicle (tasks : List Task) (transport : Transport τ) (now : τ)
    {s : RunState τ β} {told : List (Nat × Deed)}
    (chronicle : Chronicle plan body (deeds plan body) (initial tasks transport now) told s) :
    s.world.transport.connectFault = transport.connectFault ∧
    Private plan.requestTimeout transport told s.world.transport.sessions
      (roster s.view.crew) := by
  induction chronicle with
  | start => exact ⟨rfl, .initial transport⟩
  | @turn told s before i w found active ih =>
    obtain ⟨plans, own⟩ := ih
    have happens : Happens plan body s (runWorker (system plan body) s i) :=
      .moved (.worker i w found active)
    have placed := mem_roster.mpr ⟨w, found, rfl, active⟩
    -- The invariant itself gives that a client of this user has a session, as `usage_work` asks.
    have connected (client : Client τ) (has : w.state.stage.client? = some client) :
        ∃ session, client.session = some session := by
      obtain ⟨j, -, -, mine, -⟩ := own.holding placed has
      exact ⟨_, mine⟩
    have turned := own.turn plans placed (usage_work s.glance s.world plan body w.state
      (if w.dismissed then .dismissed else .elapsed) connected)
    refine ⟨(congrArg Prod.fst (plans_of_happens plan body happens)).trans plans, ?_⟩
    rw [roster_runWorker plan body found active, world_runWorker plan body found active]
    rwa [← state_turnOf plan body s w] at turned
  | other before happens noTurn ih =>
    obtain ⟨plans, own⟩ := ih
    obtain ⟨untouched, -, hired, outside, crew⟩ := aside_of_happens plan body happens noTurn
    rw [untouched.transport, crew]
    exact ⟨plans, own.hire outside⟩

/-- However a session goes, every worker that starts has one session of the transport created for
it, which carries what the bodies of its user issue between its opening and its closing, and nothing
else. When a worker has ended, its session is closed, if it could be opened; so when all have
ended, no session that was opened is left open. -/
theorem sessions_private (plan : Plan τ) (body : Body τ β) (tasks : List Task)
    (transport : Transport τ) (now : τ) (s : RunState τ β)
    (reaches : Reaches plan body (initial tasks transport now) s) :
    (∃ told, Chronicle plan body (deeds plan body) (initial tasks transport now) told s) ∧
    ∀ told, Chronicle plan body (deeds plan body) (initial tasks transport now) told s →
      Private plan.requestTimeout transport told s.world.transport.sessions (roster s.view.crew) ∧
      (∀ (j i : Nat) (w : Worker (VirtualUser τ β)), (starters told)[j]? = some i →
        s.workers[i]? = some w → w.outcome? ≠ none →
        Transport.planned transport.connectFault (transport.sessions.length + j) = none →
        ∃ session, s.world.transport.sessions[transport.sessions.length + j]? = some session ∧
          session.closed = true) ∧
      ((∀ w ∈ s.workers, w.outcome? ≠ none) → ∀ (k : Nat) (session : Http.Session τ),
        transport.sessions.length ≤ k → s.world.transport.sessions[k]? = some session →
        Transport.planned transport.connectFault k = none → session.closed = true) := by
  refine ⟨chronicle_of_reaches plan body (deeds plan body) reaches, ?_⟩
  intro told chronicle
  obtain ⟨-, own⟩ := private_of_chronicle tasks transport now chronicle
  refine ⟨own, ?_, ?_⟩
  · intro j i w started found ended free
    obtain ⟨⟨user, outcome⟩, session, placed, recorded, tenure⟩ := own.tenure j i started
    obtain ⟨w', found', -, rfl⟩ := mem_roster.mp placed
    obtain rfl : w = w' := Option.some.inj (found.symm.trans found')
    exact ⟨session, recorded, tenure.closed ended free⟩
  · intro all k session later recorded free
    -- The session belongs to the worker that connected in its turn.
    obtain ⟨known, -⟩ := List.getElem?_eq_some_iff.mp recorded
    obtain ⟨j, rfl⟩ := Nat.exists_eq_add_of_le later
    have listed : j < (starters told).length := by
      have created := own.created
      omega
    obtain ⟨⟨user, outcome⟩, session', placed, recorded', tenure⟩ :=
      own.tenure j _ (List.getElem?_eq_getElem listed)
    obtain rfl : session = session' := Option.some.inj (recorded.symm.trans recorded')
    obtain ⟨w, found, -, rfl⟩ := mem_roster.mp placed
    exact tenure.closed (all w (List.mem_of_getElem? found)) free

end Sessions

/-! ### Users that are dismissed -/

namespace Abandoned

def plan : Plan Rat :=
  { scenario := "abandoned", options := { vus := 3, iterations := 3, maxDuration := 1 },
    requestTimeout := 60 }

def script : Script Rat :=
  { common := [.get "/slow" [] none] }

def body : Body Rat (Script.State Rat) :=
  script.body

/-- The second user cannot open its session, and every response takes longer than a shutdown. -/
def transport : Transport Rat :=
  { replies := [{ delay := some 30 }]
    connectFault := some (1, Fault.ordinary "OSError" "no socket") }

def after (steps : Nat) : RunState Rat (Script.State Rat) :=
  conduct (system plan body) steps (initial [.run] transport 0)

/-- When the run is over, the users that have started are dismissed in the middle of their requests:
they close their sessions all the same. -/
theorem sessions_private_abandoned :
    (after 30).world.transport.sessions.map (fun s => (s.requests.length, s.closed)) =
      [(1, true), (0, false), (1, true)] ∧
    ∃ told, Chronicle plan body (deeds plan body) (initial [.run] transport 0) told (after 30) ∧
      Private plan.requestTimeout transport told (after 30).world.transport.sessions
        (roster (after 30).view.crew) ∧
      ∀ (k : Nat) (session : Http.Session Rat), transport.sessions.length ≤ k →
        (after 30).world.transport.sessions[k]? = some session →
        Transport.planned transport.connectFault k = none → session.closed = true := by
  have reaches : Reaches plan body (initial [.run] transport 0) (after 30) :=
    (reaches_conduct plan body 30 _ (inTurn_initial [.run] transport 0)).1
  obtain ⟨⟨told, chronicle⟩, holds⟩ :=
    sessions_private plan body [.run] transport 0 (after 30) reaches
  obtain ⟨own, -, tidy⟩ := holds told chronicle
  have ended : ∀ w ∈ (after 30).workers, w.outcome? ≠ none := by decide +kernel
  exact ⟨by decide +kernel, told, chronicle, own, tidy ended⟩

end Abandoned

end Run

end Volley
