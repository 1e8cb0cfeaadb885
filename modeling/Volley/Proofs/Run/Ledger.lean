import Volley.Proofs.Run.Turns

/-!
# The ledger of a run

The ledger of a run holds what its sessions carried and what the collector was told of: the requests
of every session, who opened it, the metrics and the results of checks. Users write into it when
they open a client, send a request, get its answer and make checks. A request is under way between
the turn in which it is sent and the one in which it is measured.

## Main definitions

- `Run.Ledger`, `Run.World.ledger`.
- `Checks.outcomes`: what checks say of a value, one after another.
- `Run.VirtualUser.Stage.pending?`: the request of a user that is under way.
- `Run.VirtualUser.Stage.evaluated`: the results of the checks that a user makes in its next turn.
- `Run.Deal`: what a turn of a user does to the ledger.

## Main results

- `delivered_evaluate`: an evaluation reports what its checks say.
- `deal_work`: every turn of a user is a deal.
-/

namespace Volley

/-! ### What checks say -/

namespace Checks

variable {α : Type}

/-- What checks say of a value, one after another: a predicate that fails by an ordinary fault says
no, and any other fault ends the evaluation. -/
def outcomes (value : α) : List (String × Predicate α) → List (String × Bool)
  | [] => []
  | (label, predicate) :: rest =>
    match predicate value with
    | .ok passed => (label, passed) :: outcomes value rest
    | .error fault => if fault.isOrdinary then (label, false) :: outcomes value rest else []

/-- An evaluation whose results are all received reports what its checks say. -/
theorem delivered_evaluate (value : α) (vu iteration : Int)
    (checks : Assoc String (Predicate α)) :
    (evaluate receiveAll value vu iteration checks).delivered =
      (outcomes value checks).map fun o => { name := o.1, passed := o.2, vu, iteration } := by
  -- By induction on the checks, from any report; one that has ended receives nothing more.
  have each (checks : List (String × Predicate α)) (report : Report) (passed : Bool)
      (open_ : report.outcome = .ok passed) :
      (checks.foldl (fun r check => r.next receiveAll value vu iteration check)
        report).delivered = report.delivered ++
          (outcomes value checks).map fun o => { name := o.1, passed := o.2, vu, iteration } := by
    induction checks generalizing report passed with
    | nil => simp [outcomes]
    | cons check rest ih =>
      obtain ⟨label, predicate⟩ := check
      rw [List.foldl_cons]
      cases said : predicate value with
      | ok answer =>
        rw [ih _ (passed && answer) (by
          simp [Report.next, open_, said, Report.deliver, receiveAll])]
        simp [Report.next, open_, said, Report.deliver, receiveAll, outcomes]
      | error fault =>
        by_cases ordinary : fault.isOrdinary = true
        · rw [ih _ false (by
            simp [Report.next, open_, said, ordinary, Report.deliver, receiveAll])]
          simp [Report.next, open_, said, ordinary, Report.deliver, receiveAll, outcomes]
        · rw [foldl_next_of_ended _ _ _ _ _ fault
            (by simp [Report.next, open_, said, ordinary])]
          simp [Report.next, open_, said, ordinary, outcomes]
  exact each checks {} true rfl

end Checks

/-- What is told of a request in brief: who sends it, its method and its URL. -/
abbrev Brief := Int × String × String

/-- What a metric tells of its request in brief. -/
def Metric.brief {τ : Type} (m : Metric τ) : Brief :=
  (m.vu, m.method, m.url)

namespace Run

open Http Pool

variable {τ β : Type}

/-! ### The ledger -/

/-- A request, told in brief, as its sender knows it. -/
def briefOf (vu : Int) (request : Request) : Brief :=
  (vu, request.method, request.url)

/-- Who opened which session, if that is what the event tells. -/
def Event.opened? : Event τ → Option (Int × Nat)
  | .opened vu session => some (vu, session)
  | _ => none

/-- What the sessions of a run carried and what the collector was told of. -/
structure Ledger (τ : Type) where
  carried : List (List Request)
  /-- Who opened which session, the latest first. -/
  opened : List (Int × Nat)
  metrics : List (Metric τ)
  checks : List CheckResult

/-- The ledger of a world. -/
def World.ledger (w : World τ) : Ledger τ :=
  { carried := w.transport.sessions.map Session.requests
    opened := w.history.filterMap Event.opened?
    metrics := w.collector.requests
    checks := w.collector.checks }

namespace Ledger

/-- A session is created, and carries nothing yet. -/
def connect (l : Ledger τ) : Ledger τ :=
  { l with carried := l.carried ++ [[]] }

/-- A session is created, and a user opens it. -/
def enter (l : Ledger τ) (vu : Int) : Ledger τ :=
  { l.connect with opened := (vu, l.carried.length) :: l.opened }

/-- A session carries one more request. -/
def send (l : Ledger τ) (session : Nat) (request : Request) : Ledger τ :=
  { l with carried := l.carried.modify session (· ++ [request]) }

/-- The collector is told of a request that has ended. -/
def measure (l : Ledger τ) (metric : Metric τ) : Ledger τ :=
  { l with metrics := l.metrics ++ [metric] }

/-- The collector is told of checks. -/
def check (l : Ledger τ) (results : List CheckResult) : Ledger τ :=
  { l with checks := l.checks ++ results }

end Ledger

namespace VirtualUser.Stage

/-- The client of a user, which it has from its first turn to its last. -/
def client? : VirtualUser.Stage τ β → Option (Client τ)
  | .between client | .inside client _ _ => some client
  | .outside | .gone => none

/-- The request that is under way. -/
def pending? : VirtualUser.Stage τ β → Option Brief
  | .inside _ _ (.requesting _ flight) => some (briefOf flight.vu flight.request)
  | _ => none

/-- The results of the checks that a user makes in its next turn. -/
def evaluated (body : Body τ β) (vu : Int) : VirtualUser.Stage τ β → List CheckResult
  | .inside _ iteration (.cued state cue) =>
    match (body.respond state cue).move with
    | .check subject checks =>
      (Checks.outcomes subject checks).map fun o => { name := o.1, passed := o.2, vu, iteration }
    | _ => []
  | _ => []

/-- A user makes no checks in its next turn. -/
def Silent (body : Body τ β) (stage : VirtualUser.Stage τ β) : Prop :=
  ∀ vu, stage.evaluated body vu = []

end VirtualUser.Stage

/-- What a turn of a user does to the ledger. -/
inductive Deal (body : Body τ β) (vu : Nat) (l : Ledger τ) :
    VirtualUser.Stage τ β → VirtualUser.Stage τ β → Ledger τ → Prop
  /-- It does nothing, except perhaps that it drops its client. -/
  | still {before after : VirtualUser.Stage τ β}
      (client : after.client? = before.client? ∨ after.client? = none)
      (pending : after.pending? = before.pending?)
      (silent : before.Silent body) : Deal body vu l before after l
  | refused : Deal body vu l .outside .gone l.connect
  | opened (client : Client τ) (mine : client.vu = vu)
      (session : client.session = some l.carried.length) :
      Deal body vu l .outside (.between client) (l.enter vu)
  | sent (client : Client τ) (iteration : Nat) (state state' : β) (cue : Cue) (session : Nat)
      (request : Request) (flight : Flight τ) (connected : client.session = some session)
      (tells : briefOf flight.vu flight.request = briefOf client.vu request)
      (silent : (VirtualUser.Stage.inside client iteration (.cued state cue)).Silent body) :
      Deal body vu l (.inside client iteration (.cued state cue))
        (.inside client iteration (.requesting state' flight)) (l.send session request)
  /-- A request is sent and answered in one turn. -/
  | exchanged (client : Client τ) (iteration : Nat) (state state' : β) (cue cue' : Cue)
      (session : Nat) (request : Request) (metric : Metric τ)
      (connected : client.session = some session)
      (tells : metric.brief = briefOf client.vu request)
      (silent : (VirtualUser.Stage.inside client iteration (.cued state cue)).Silent body) :
      Deal body vu l (.inside client iteration (.cued state cue))
        (.inside client iteration (.cued state' cue')) ((l.send session request).measure metric)
  | answered (client : Client τ) (iteration : Nat) (state state' : β) (flight : Flight τ)
      (cue : Cue) (metric : Metric τ) (tells : metric.brief = briefOf flight.vu flight.request) :
      Deal body vu l (.inside client iteration (.requesting state flight))
        (.inside client iteration (.cued state' cue)) (l.measure metric)
  | checked (client : Client τ) (iteration : Nat) (state state' : β) (cue cue' : Cue) :
      Deal body vu l (.inside client iteration (.cued state cue))
        (.inside client iteration (.cued state' cue'))
        (l.check ((VirtualUser.Stage.inside client iteration (.cued state cue)).evaluated body
          client.vu))

/-! ### What does not show in the ledger -/

/-- Of all events only openings are in the ledger. -/
theorem ledger_record (w : World τ) (event : Event τ) (other : event.opened? = none) :
    (w.record event).ledger = w.ledger := by
  simp [World.ledger, World.record, other]

theorem ledger_log (w : World τ) (entry : Journal.Entry τ) : (w.log entry).ledger = w.ledger :=
  ledger_record w _ rfl

theorem ledger_note (w : World τ) (vu : Int) (time : τ) (notes : List Note) :
    (w.note vu time notes).ledger = w.ledger :=
  foldl_kept World.ledger _ (fun w _ => ledger_record w _ rfl) notes w

theorem ledger_requestStop (w : World τ) : w.requestStop.2.ledger = w.ledger := by
  unfold World.requestStop
  split
  · exact ledger_log w _
  · rfl

/-- A client that has a session closes it on its way out. -/
theorem transport_exit (c : Client τ) (t : Transport τ) :
    (c.exit t).2 = match c.session with
      | none => t
      | some number => (t.close number).2 := by
  unfold Client.exit
  cases c.session with
  | none => rfl
  | some number =>
    -- It is closed also when that fails.
    dsimp only
    split
    next fault t' same => rw [same]
    next t' same => rw [same]

/-- To exit leaves what the sessions have carried. -/
theorem carried_exit (c : Client τ) (t : Transport τ) :
    (c.exit t).2.sessions.map Session.requests = t.sessions.map Session.requests := by
  rw [transport_exit]
  split
  · rfl
  next number connected =>
    -- Closing a session leaves the requests that it carried.
    have same : ∀ session : Http.Session τ, t.sessions[number]? = some session →
        ({ session with closed := true } : Http.Session τ).requests = id session.requests :=
      fun _ _ => rfl
    exact (map_modify same).trans (modify_of_fixed fun _ _ => rfl)

theorem ledger_leave (user : VirtualUser τ β) (w : World τ) (client : Client τ)
    (outcome : Outcome) : (user.leave w client outcome).world.ledger = w.ledger :=
  (ledger_record _ _ rfl).trans
    (congrArg (fun carried => { w.ledger with carried }) (carried_exit client w.transport))

/-! ### Requests under way -/

/-- What becomes of a request is about it all the same. -/
def Recounts (vu : Int) (request : Request) : Progress τ → Prop
  | .waiting _ flight => flight.vu = vu ∧ flight.request = request
  | .ended metric _ => metric.brief = briefOf vu request

section Flights

variable [Scalar τ] (f : Flight τ) (now : τ)

/-- A request that fails is measured as what it is. -/
theorem recounts_fail (fault : Fault) : Recounts f.vu f.request (f.fail now fault) :=
  rfl

/-- So is one whose body is read. -/
theorem recounts_read : Recounts f.vu f.request (f.read now) := by
  unfold Flight.read
  split
  · exact recounts_fail f now _
  · rfl

/-- A response is read at once, or later by the same flight. -/
theorem recounts_respond : Recounts f.vu f.request (f.respond now) := by
  unfold Flight.respond
  split
  · exact recounts_fail f now _
  · dsimp only
    split
    · exact ⟨rfl, rfl⟩
    · exact recounts_read { f with stage := .reading } now

/-- However a flight goes on, it is about the same request. -/
theorem recounts_advance : Recounts f.vu f.request (f.advance now) := by
  unfold Flight.advance
  split
  · -- The phases of a flight in turn: each ends it, or hands it to the next one.
    unfold Flight.launch
    split
    · exact recounts_respond f now
    · split
      · exact ⟨rfl, rfl⟩
      · exact ⟨rfl, rfl⟩
  · exact recounts_fail f now _
  · exact recounts_respond f now
  · exact recounts_read f now

end Flights

/-! ### Turns of users -/

/-- The results that are delivered are what the collector is told. -/
theorem ledger_recordChecks (w : World τ) (report : Checks.Report) :
    (Iteration.recordChecks w report).ledger = w.ledger.check report.delivered := by
  have remarked : (report.raised.foldl (fun w label => w.log (.checkRaised label)) w).ledger =
      w.ledger :=
    foldl_kept World.ledger _ (fun w _ => ledger_log w _) report.raised w
  have each (results : List CheckResult) (w : World τ) :
      (results.foldl (fun w result =>
        { w with collector := w.collector.recordCheck result }.record (.checked result)) w).ledger =
          w.ledger.check results := by
    induction results generalizing w with
    | nil => simp [Ledger.check]
    | cons result rest ih =>
      -- One result after another, each behind those before it.
      rw [List.foldl_cons, ih, ledger_record _ _ rfl]
      simp [World.ledger, Ledger.check, Collector.recordCheck]
  unfold Iteration.recordChecks
  rw [each, remarked]

/-- After an answer a request is under way, or it has been measured and is cued to the body. -/
theorem follow_cases (w : World τ) (state : β) {vu : Int} {request : Request}
    {progress : Progress τ} (recounts : Recounts vu request progress) :
    (∃ delay flight, briefOf flight.vu flight.request = briefOf vu request ∧
      Iteration.follow w state progress =
        { world := w, next := .going (.requesting state flight) (.sleep delay) }) ∨
    ∃ metric cue, metric.brief = briefOf vu request ∧
      (Iteration.follow w state progress).next = .going (.cued state cue) .goOn ∧
      (Iteration.follow w state progress).world.ledger = w.ledger.measure metric := by
  cases progress with
  | waiting delay flight =>
    obtain ⟨mine, same⟩ := recounts
    exact .inl ⟨delay, flight, by rw [mine, same], rfl⟩
  | ended metric outcome =>
    cases outcome with
    | ok response => exact .inr ⟨metric, _, recounts, rfl, rfl⟩
    | error fault => exact .inr ⟨metric, _, recounts, rfl, rfl⟩

/-- A move that is no check makes none. -/
theorem silent_of_other (body : Body τ β) (state : β) (cue : Cue)
    (other : ∀ subject checks, (body.respond state cue).move ≠ .check subject checks)
    (client : Client τ) (iteration : Nat) :
    (VirtualUser.Stage.inside client iteration (.cued state cue)).Silent body := by
  intro vu
  unfold VirtualUser.Stage.evaluated
  dsimp only
  split
  next subject checks moved => exact absurd moved (other subject checks)
  · rfl

/-- A request that the transport receives is carried by its session. -/
theorem ledger_receive (w : World τ) (session : Nat) (request : Request) (event : Event τ)
    (other : event.opened? = none) :
    ({ w with transport := (w.transport.receive session request).2 }.record event).ledger =
      w.ledger.send session request := by
  have carried : (w.transport.receive session request).2.sessions.map Http.Session.requests =
      w.ledger.carried.modify session (· ++ [request]) :=
    map_modify fun _ _ => rfl
  exact (ledger_record _ event other).trans
    (congrArg (fun carried => { w.ledger with carried }) carried)

/-- The flight of a request that a client sends now. -/
def flightOf (client : Client τ) (t : Transport τ) (now : τ) (path : String) (headers : Headers)
    (name : Option String) : Flight τ :=
  { start := now, name := Client.metricName path name, request := client.request path headers,
    vu := client.vu, timeout := client.timeout, reply := t.nextReply }

/-- A request on an open client goes on its way once the transport has received it. -/
theorem perform_get [Scalar τ] {client : Client τ} {session : Nat}
    (connected : client.session = some session) (iteration : Int) (g : Glance τ) (w : World τ)
    (state : β) (path : String) (headers : Headers) (name : Option String) :
    Iteration.perform client iteration g w state (.get path headers name) =
      Iteration.follow
        ({ w with transport :=
            (w.transport.receive session (client.request path headers)).2 }.record
          (.requested client.vu session))
        state ((flightOf client w.transport g.now path headers name).advance g.now) := by
  simp [Iteration.perform, Client.send, connected, flightOf, Transport.receive]

section Turns

variable [Scalar τ] (body : Body τ β) (vu : Nat)

/-- What a step of an iteration at a stage does to a ledger: a deal, or nothing if it ends. -/
def Deals (client : Client τ) (iteration : Nat) (stage : Iteration.Stage τ β) (l : Ledger τ)
    (effect : Iteration.Effect τ β) : Prop :=
  match effect.next with
  | .going next _ =>
    Deal body vu l (.inside client iteration stage) (.inside client iteration next)
      effect.world.ledger
  | .ended _ => effect.world.ledger = l ∧
    (VirtualUser.Stage.inside client iteration stage).pending? = none ∧
    (VirtualUser.Stage.inside client iteration stage).Silent body

variable (client : Client τ) (iteration : Nat) (g : Glance τ) (w : World τ)

/-- A request is sent if the client is open, and answered at once or later. -/
theorem deals_get (state state' : β) (cue : Cue) {path : String} {headers : Headers}
    {name : Option String}
    (silent : (VirtualUser.Stage.inside client iteration (.cued state cue)).Silent body) :
    Deals body vu client iteration (.cued state cue) w.ledger
      (Iteration.perform client iteration g w state' (.get path headers name)) := by
  cases connected : client.session with
  | none =>
    have refused : Iteration.perform client iteration g w state' (.get path headers name) =
        Iteration.cue w state' (.faulted Client.notOpen) := by
      simp [Iteration.perform, Client.send, connected]
    rw [refused]
    exact .still (.inl rfl) rfl silent
  | some session =>
    let flight := flightOf client w.transport g.now path headers name
    let sent := { w with transport :=
      (w.transport.receive session (client.request path headers)).2 }.record
        (.requested client.vu session)
    have ledger : sent.ledger = w.ledger.send session (client.request path headers) :=
      ledger_receive w session _ _ rfl
    rw [perform_get connected]
    -- The request is on its way, and then it is under way or has been answered at once.
    rcases follow_cases sent state' (recounts_advance flight g.now) with
      ⟨delay, later, same, waits⟩ | ⟨metric, cue', same, goes, measured⟩
    · rw [waits, Deals]
      dsimp only
      rw [ledger]
      exact .sent client iteration state state' cue session _ later connected same silent
    · rw [Deals, goes]
      dsimp only
      rw [measured, ledger]
      exact .exchanged client iteration state state' cue cue' session _ metric connected
        same silent

/-- The checks that are evaluated are those that the body asked for. -/
theorem deals_check (state state' : β) (cue : Cue) {subject : Subject}
    {checks : Assoc String (Predicate Subject)}
    (moved : (body.respond state cue).move = .check subject checks) :
    Deals body vu client iteration (.cued state cue) w.ledger
      (Iteration.perform client iteration g w state' (.check subject checks)) := by
  let report := Checks.evaluate Checks.receiveAll subject client.vu iteration checks
  have evaluated : (VirtualUser.Stage.inside client iteration (.cued state cue)).evaluated body
      client.vu = report.delivered := by
    simp only [VirtualUser.Stage.evaluated, moved, report, Checks.delivered_evaluate]
  -- Whatever the body is told of it, the results are in the ledger.
  obtain ⟨cue', performed⟩ : ∃ cue',
      Iteration.perform client iteration g w state' (.check subject checks) =
        Iteration.cue (Iteration.recordChecks w report) state' cue' := by
    unfold Iteration.perform
    dsimp only
    split <;> exact ⟨_, rfl⟩
  have recorded : (Iteration.recordChecks w report).ledger = w.ledger.check report.delivered :=
    ledger_recordChecks w report
  rw [performed, Deals]
  dsimp only [Iteration.cue]
  rw [recorded, ← evaluated]
  exact .checked client iteration state state' cue cue'

/-- Every move is a deal. -/
theorem deals_perform (state state' : β) (cue : Cue) :
    Deals body vu client iteration (.cued state cue) w.ledger
      (Iteration.perform client iteration g w state' (body.respond state cue).move) := by
  have silent := silent_of_other body state cue
  cases moved : (body.respond state cue).move with
  | get path headers name =>
    exact deals_get body vu client iteration g w state state' cue
      (silent (by simp [moved]) client iteration)
  | check subject checks => exact deals_check body vu client iteration g w state state' cue moved
  | stop =>
    have stopped : (Iteration.perform client iteration g w state' .stop).world.ledger = w.ledger :=
      ledger_requestStop w
    rw [Deals, stopped]
    exact .still (.inl rfl) rfl (silent (by simp [moved]) client iteration)
  | finish => exact ⟨rfl, rfl, silent (by simp [moved]) client iteration⟩
  | fail fault => exact ⟨rfl, rfl, silent (by simp [moved]) client iteration⟩
  | sleep time => exact .still (.inl rfl) rfl (silent (by simp [moved]) client iteration)
  | hang => exact .still (.inl rfl) rfl (silent (by simp [moved]) client iteration)
  | look => exact .still (.inl rfl) rfl (silent (by simp [moved]) client iteration)
  | signal name => exact .still (.inl rfl) rfl (silent (by simp [moved]) client iteration)

omit [Scalar τ] in
/-- A request that was under way is still so, or it is answered. -/
theorem deals_follow (state : β) (flight : Flight τ) {progress : Progress τ}
    (recounts : Recounts flight.vu flight.request progress) :
    Deals body vu client iteration (.requesting state flight) w.ledger
      (Iteration.follow w state progress) := by
  rcases follow_cases w state recounts with
    ⟨delay, later, same, waits⟩ | ⟨metric, cue, same, goes, measured⟩
  · rw [waits]
    exact .still (.inl rfl) (congrArg some same) fun _ => rfl
  · rw [Deals, goes]
    dsimp only
    rw [measured]
    exact .answered client iteration state state flight cue metric same

/-- Every step of an iteration is a deal. -/
theorem deals_step (stage : Iteration.Stage τ β) (wake : Wake) :
    Deals body vu client iteration stage w.ledger
      (Iteration.step body client iteration g w stage wake) := by
  unfold Iteration.step
  split
  next wake state cue =>
    have performed := deals_perform body vu client iteration g
      (w.note client.vu g.now (body.respond state cue).notes) state (body.respond state cue).state
      cue
    rwa [ledger_note] at performed
  -- Who rests does nothing, and who waits for a response has sent its request before.
  · exact .still (.inl rfl) rfl fun _ => rfl
  · exact .still (.inl rfl) rfl fun _ => rfl
  next state flight =>
    exact deals_follow body vu client iteration w state flight (recounts_advance flight g.now)
  next state flight =>
    exact deals_follow body vu client iteration w state flight
      (recounts_fail flight g.now .cancelled)

end Turns

section Work

variable (body : Body τ β)

/-- To leave is to do nothing but drop the client. -/
theorem deal_leave {user : VirtualUser τ β} {w w' : World τ} {client : Client τ}
    {before : VirtualUser.Stage τ β} (outcome : Outcome) (same : w'.ledger = w.ledger)
    (pending : before.pending? = none) (silent : before.Silent body) :
    Deal body user.vu w.ledger before (user.leave w' client outcome).state.stage
      (user.leave w' client outcome).world.ledger := by
  rw [ledger_leave, same]
  exact .still (.inr rfl) pending.symm silent

/-- The session is on record whether or not it could be opened. -/
theorem transport_connect (t : Transport τ) (timeout : τ) :
    (t.connect timeout).2 = { t with sessions := t.sessions ++ [{ timeout := timeout }] } := by
  unfold Transport.connect
  dsimp only
  split <;> rfl

/-- A user that enters has a client with the next session, unless a fault is planned for it: then
the user is gone. -/
theorem enter_cases (plan : Plan τ) (w : World τ) (user : VirtualUser τ β) :
    (∃ fault, Transport.planned w.transport.connectFault w.transport.sessions.length = some fault ∧
      VirtualUser.enter plan w user =
        { world := { w with transport := (w.transport.connect plan.requestTimeout).2 }
          state := { user with stage := .gone }
          pause := .finish (.failed fault) }) ∨
    Transport.planned w.transport.connectFault w.transport.sessions.length = none ∧
      VirtualUser.enter plan w user =
        { world := { w with transport := (w.transport.connect plan.requestTimeout).2 }.record
            (.opened user.vu w.transport.sessions.length)
          state := { user with stage := .between { Client.make "" plan.headers user.vu
            plan.requestTimeout with session := some w.transport.sessions.length } }
          pause := .goOn } := by
  unfold VirtualUser.enter Client.enter Transport.connect
  dsimp only
  cases Transport.planned w.transport.connectFault w.transport.sessions.length with
  | some fault => exact .inl ⟨fault, rfl, rfl⟩
  | none => exact .inr ⟨rfl, rfl⟩

/-- What is connected carries nothing yet. -/
theorem ledger_connect (w : World τ) (timeout : τ) :
    { w with transport := (w.transport.connect timeout).2 }.ledger = w.ledger.connect := by
  simp [World.ledger, Ledger.connect, transport_connect]

/-- Who enters opens the next session, or is refused it. -/
theorem deal_enter (plan : Plan τ) (w : World τ) (user : VirtualUser τ β) :
    Deal body user.vu w.ledger .outside (VirtualUser.enter plan w user).state.stage
      (VirtualUser.enter plan w user).world.ledger := by
  -- The ledger has one entry for each session of the transport.
  have number : w.transport.sessions.length = w.ledger.carried.length :=
    (List.length_map Http.Session.requests).symm
  rcases enter_cases plan w user with ⟨fault, -, entered⟩ | ⟨-, entered⟩
  · rw [entered, ledger_connect]
    exact .refused
  · have ledger : (VirtualUser.enter plan w user).world.ledger = w.ledger.enter user.vu := by
      rw [entered, Ledger.enter, ← ledger_connect w plan.requestTimeout, ← number]
      rfl
    rw [ledger, entered]
    exact .opened _ rfl (congrArg some number)

/-- Between iterations nothing is sent or checked. -/
theorem deal_claim (plan : Plan τ) (g : Glance τ) (w : World τ) (user : VirtualUser τ β)
    (client : Client τ) :
    Deal body user.vu w.ledger (.between client)
      (VirtualUser.claim plan body g w user client).state.stage
      (VirtualUser.claim plan body g w user client).world.ledger := by
  unfold VirtualUser.claim World.claim
  split
  · exact deal_leave body _ rfl rfl fun _ => rfl
  · by_cases free : w.claimed < plan.options.iterations
    · rw [if_pos free]
      dsimp only
      rw [ledger_record _ _ rfl]
      exact .still (.inl rfl) rfl fun _ => rfl
    · rw [if_neg free]
      exact deal_leave body _ rfl rfl fun _ => rfl

/-- Neither is it at the end of an iteration. -/
theorem deal_conclude (g : Glance τ) (w w' : World τ) (user : VirtualUser τ β) (client : Client τ)
    (iteration : Nat) (stage : Iteration.Stage τ β) (fault : Option Fault)
    (same : w'.ledger = w.ledger)
    (pending : (VirtualUser.Stage.inside client iteration stage).pending? = none)
    (silent : (VirtualUser.Stage.inside client iteration stage).Silent body) :
    Deal body user.vu w.ledger (.inside client iteration stage)
      (VirtualUser.conclude g w' user client iteration fault).state.stage
      (VirtualUser.conclude g w' user client iteration fault).world.ledger := by
  -- What is recorded of the end of an iteration is neither a request nor a check.
  have recorded (fault : Option Fault) :
      { w'.record (.ended user.vu iteration g.now fault) with
        collector := (w'.record (.ended user.vu iteration g.now fault)).collector.recordIteration
          fault }.ledger = w.ledger := by
    cases fault <;> exact (ledger_record w' _ rfl).trans same
  have stays (w'' : World τ) (same : w''.ledger = w.ledger) :
      Deal body user.vu w.ledger (.inside client iteration stage) (.between client) w''.ledger :=
    same ▸ .still (.inl rfl) pending.symm silent
  unfold VirtualUser.conclude
  dsimp only
  split
  · exact stays _ (recorded none)
  next f =>
    split
    · exact stays _ ((ledger_log _ _).trans (recorded (some f)))
    · exact deal_leave body _ ((ledger_record w' _ rfl).trans same) pending silent

end Work

/-- Every turn of a user is a deal. -/
theorem deal_work [Scalar τ] (plan : Plan τ) (body : Body τ β) (g : Glance τ) (w : World τ)
    (user : VirtualUser τ β) (wake : Wake) :
    Deal body user.vu w.ledger user.stage (VirtualUser.work plan body g w user wake).state.stage
      (VirtualUser.work plan body g w user wake).world.ledger := by
  unfold VirtualUser.work
  split
  next outside =>
    cases wake with
    | dismissed =>
      rw [outside]
      exact .still (.inl rfl) rfl fun _ => rfl
    | elapsed =>
      rw [outside]
      exact deal_enter body plan w user
  next client between =>
    rw [between]
    cases wake with
    | dismissed => exact deal_leave body _ rfl rfl fun _ => rfl
    | elapsed => exact deal_claim body plan g w user client
  next client iteration stage inside =>
    have deals := deals_step body user.vu client iteration g w stage wake
    rw [inside]
    unfold Deals at deals
    dsimp only
    split
    next next pause goes =>
      rw [goes] at deals
      exact deals
    next fault ends =>
      rw [ends] at deals
      exact deal_conclude body g w _ user client iteration stage fault deals.1 deals.2.1 deals.2.2
  next gone =>
    dsimp only
    rw [gone]
    exact .still (.inl rfl) rfl fun _ => rfl

end Run

end Volley
