import Volley.Proofs.Http.Fate
import Volley.Proofs.Run.Ledger
import Volley.Proofs.Run.Undisturbed
import Volley.Scenario.Products

/-!
# Iterations of the products scenario

An iteration of the products scenario leaves traces: the transport receives its request, the
collector is told of the metric of the request and of the check, and the iteration is settled. From
the moment the request is sent its fate settles which traces they are. So the traces that were left
and those that are outstanding, of all users together, are those of the fates of as many requests as
were served. Every turn of a user keeps that: it leaves some of its outstanding traces, or it sends
a request and owes what that leaves.

## Main definitions

- `Products.Trace`, `Products.recorded`: what iterations leave in a world.
- `Products.traces`: what an iteration leaves whose request has some fate.
- `Products.outstanding`: the traces that a user has still to leave.
- `Products.Engaged`: the stages that users come to.
- `Products.Leaves`: from world to world, outstanding traces are left.

## Main results

- `proceeds_step`: every step of an iteration leaves some of its outstanding traces.
- `serves_work`: so does every turn of a user.
-/

namespace Volley

namespace Products

open Http Pool Run

variable {τ : Type}

/-! ### Traces -/

/-- What an iteration leaves in a world. -/
inductive Trace where
  | sent (request : Request)
  | measured (name : String) (failed : Bool)
  | checked (label : String) (passed : Bool)
  | settled (fine : Bool)
  deriving DecidableEq, Repr

/-- The traces in a world. -/
def recorded (w : World τ) : List Trace :=
  (w.transport.sessions.flatMap Http.Session.requests).map Trace.sent ++
    w.collector.requests.map (fun m => Trace.measured m.name (Collector.isRequestError m)) ++
    w.collector.checks.map (fun r => Trace.checked r.name r.passed) ++
    (Lap.settled w.laps).map fun entry => Trace.settled entry.2.isNone

section Traces

variable (config : RequestConfig τ)

/-- The request of an iteration. -/
def wanted : Request :=
  { method := "GET", url := config.url, headers := authorization config.token }

def judged (status : Int) : Trace :=
  .checked statusCheck (config.accepted.contains status)

/-- What an iteration leaves after its request was sent. -/
def aftermath : Fate → List Trace
  | .failed => [.measured metricName true, .settled false]
  | .unread => [.measured metricName false, .settled false]
  | .read status => [.measured metricName false, judged config status, .settled true]

/-- What an iteration leaves whose request has this fate. -/
def traces (fate : Fate) : List Trace :=
  .sent (wanted config) :: aftermath config fate

/-- What an iteration has still to leave. -/
def owing [Scalar τ] : Iteration.Stage τ Stage → List Trace
  | .requesting _ flight => aftermath config flight.fate
  | .cued _ (.answered response) => [judged config response.status, .settled true]
  | .cued _ (.faulted _) => [.settled false]
  | .cued _ (.checked _) => [.settled true]
  | _ => []

/-- What a user has still to leave. -/
def outstanding [Scalar τ] : VirtualUser.Stage τ Stage → List Trace
  | .inside _ _ stage => owing config stage
  | _ => []

end Traces

/-- The fates of the first so many requests. -/
def fates [Scalar τ] (plan : Plan τ) (replies : List (Reply τ)) (served : Nat) : List Fate :=
  (List.range served).map fun k => (replyTo replies k).fate plan.requestTimeout

/-- The traces of all requests that were served. -/
def expected [Scalar τ] (config : RequestConfig τ) (plan : Plan τ) (t : Transport τ) : List Trace :=
  (fates plan t.replies t.served).flatMap (traces config)

/-- One request more has the traces of its own fate. -/
theorem expected_succ [Scalar τ] (config : RequestConfig τ) (plan : Plan τ) {t t' : Transport τ}
    (replies : t'.replies = t.replies) (served : t'.served = t.served + 1) :
    expected config plan t' = expected config plan t ++
      traces config (t.nextReply.fate plan.requestTimeout) := by
  simp only [expected, fates, replies, served, List.range_succ, List.map_append,
    List.flatMap_append, List.map_singleton, List.flatMap_singleton]
  rfl

/-! ### From world to world -/

/-- What is new in a world is what is new in its parts. -/
theorem perm_recorded {w w' : World τ} (requests : List Request) (metrics : List (Metric τ))
    (checks : List CheckResult) (entries : List (Int × Option Fault))
    (sent : (w'.transport.sessions.flatMap Http.Session.requests).Perm
      (w.transport.sessions.flatMap Http.Session.requests ++ requests))
    (measured : w'.collector.requests = w.collector.requests ++ metrics)
    (checked : w'.collector.checks = w.collector.checks ++ checks)
    (settled : Lap.settled w'.laps = Lap.settled w.laps ++ entries) :
    (recorded w').Perm (recorded w ++ (requests.map Trace.sent ++
      metrics.map (fun m => Trace.measured m.name (Collector.isRequestError m)) ++
      checks.map (fun r => Trace.checked r.name r.passed) ++
      entries.map fun entry => Trace.settled entry.2.isNone)) := by
  -- Counted trace by trace, as each kind has its own place in the list.
  apply List.perm_iff_count.mpr
  intro trace
  have sent := (sent.map Trace.sent).count_eq trace
  simp only [List.map_append, List.count_append] at sent
  simp only [recorded, measured, checked, settled, List.map_append, List.count_append, sent]
  omega

/-- Traces that were owed before are left or owed still, whatever others owe besides. -/
structure Leaves [Scalar τ] (config : RequestConfig τ) (plan : Plan τ) (w w' : World τ)
    (before after : List Trace) : Prop where
  replies : w'.transport.replies = w.transport.replies
  sessions : w.transport.sessions.length ≤ w'.transport.sessions.length
  balance : ∀ others,
    (recorded w ++ (before ++ others)).Perm (expected config plan w.transport) →
      (recorded w' ++ (after ++ others)).Perm (expected config plan w'.transport)

section Leaves

variable [Scalar τ] {config : RequestConfig τ} {plan : Plan τ} {w w' w'' : World τ}
  {before between after : List Trace}

theorem Leaves.refl (w : World τ) (owed : List Trace) : Leaves config plan w w owed owed :=
  ⟨rfl, Nat.le_refl _, fun _ => id⟩

theorem Leaves.trans (first : Leaves config plan w w' before between)
    (second : Leaves config plan w' w'' between after) : Leaves config plan w w'' before after :=
  ⟨second.replies.trans first.replies, Nat.le_trans first.sessions second.sessions,
    fun others balance => second.balance others (first.balance others balance)⟩

/-- Traces are left while no request is served. -/
theorem Leaves.of_recorded (replies : w'.transport.replies = w.transport.replies)
    (served : w'.transport.served = w.transport.served)
    (sessions : w.transport.sessions.length ≤ w'.transport.sessions.length) (made : List Trace)
    (new : (recorded w').Perm (recorded w ++ made)) (after : List Trace) :
    Leaves config plan w w' (made ++ after) after := by
  refine ⟨replies, sessions, ?_⟩
  intro others balance
  -- What is expected depends on the requests that were served, and none was.
  have same : expected config plan w'.transport = expected config plan w.transport := by
    simp only [expected, replies, served]
  rw [same]
  refine List.Perm.trans ?_ balance
  have moved := new.append_right (after ++ others)
  simp only [List.append_assoc] at moved ⊢
  exact moved

theorem Leaves.of_collected (transport : w'.transport = w.transport) (made : List Trace)
    (new : (recorded w').Perm (recorded w ++ made)) (after : List Trace) :
    Leaves config plan w w' (made ++ after) after :=
  .of_recorded (by rw [transport]) (by rw [transport]) (by rw [transport]) made new after

/-- A metric is left when a request is over. -/
theorem leaves_measure (w : World τ) (metric : Metric τ) (after : List Trace) :
    Leaves config plan w { w with collector := w.collector.recordRequest metric }
      (.measured metric.name (Collector.isRequestError metric) :: after) after := by
  refine Leaves.of_collected ?_ [_] ?_ after
  · rfl
  · exact perm_recorded [] [metric] [] [] (by simp) rfl (by simp [Collector.recordRequest])
      (by simp [World.laps])

/-- The result of a check is left when it is made. -/
theorem leaves_check (w : World τ) (result : CheckResult) (after : List Trace) :
    Leaves config plan w
      ({ w with collector := w.collector.recordCheck result }.record (.checked result))
      (.checked result.name result.passed :: after) after := by
  refine Leaves.of_collected ?_ [_] ?_ after
  · rfl
  · have laps : ({ w with collector := w.collector.recordCheck result }.record
        (.checked result)).laps = w.laps := laps_record _ _ rfl
    exact perm_recorded [] [] [result] [] (by simp [World.record])
      (by simp [World.record, Collector.recordCheck]) rfl (by simp [laps])

/-- An iteration that is settled leaves how it ended. -/
theorem leaves_settle {w w' : World τ} (vu iteration : Int) {fault : Option Fault}
    (settles : Lap.settles fault = true) (laps : w'.laps = .ended vu iteration fault :: w.laps)
    (transport : w'.transport = w.transport)
    (requests : w'.collector.requests = w.collector.requests)
    (checks : w'.collector.checks = w.collector.checks) :
    Leaves config plan w w' [.settled fault.isNone] [] := by
  have entries : Lap.settled w'.laps = Lap.settled w.laps ++ [(iteration, fault)] := by
    rw [laps, Lap.settled, if_pos settles]
  apply Leaves.of_collected transport [_]
  exact perm_recorded [] [] [] [(iteration, fault)] (by simp [transport]) (by simp [requests])
    (by simp [checks]) entries

/-- Nothing is left by a session that is opened or closed, or an iteration that begins. -/
theorem leaves_nothing {w w' : World τ} (replies : w'.transport.replies = w.transport.replies)
    (served : w'.transport.served = w.transport.served)
    (sessions : w.transport.sessions.length ≤ w'.transport.sessions.length)
    (carried : w'.transport.sessions.flatMap Http.Session.requests =
      w.transport.sessions.flatMap Http.Session.requests)
    (collector : w'.collector = w.collector)
    (settled : Lap.settled w'.laps = Lap.settled w.laps) : Leaves config plan w w' [] [] := by
  apply Leaves.of_recorded replies served sessions []
  simp only [recorded, carried, collector, settled, List.append_nil]
  exact .refl _

end Leaves

/-- A request that is received is one more in the session that carries it. -/
theorem perm_receive (t : Transport τ) {session : Nat} (known : session < t.sessions.length)
    (request : Request) :
    ((t.receive session request).2.sessions.flatMap Http.Session.requests).Perm
      (t.sessions.flatMap Http.Session.requests ++ [request]) := by
  -- Its session gains it at the end, and the others carry what they carried.
  have found := List.getElem?_eq_getElem known
  obtain ⟨rest, before, after⟩ := flatMap_set_perm found Http.Session.requests
  have placed := after { t.sessions[session] with
    requests := t.sessions[session].requests ++ [request] }
  have same : (t.receive session request).2.sessions =
      t.sessions.set session { t.sessions[session] with
        requests := t.sessions[session].requests ++ [request] } :=
    List.modify_eq_set_get _ known
  rw [same]
  refine placed.trans ?_
  rw [List.append_assoc]
  refine (List.perm_append_comm.append_left _).trans ?_
  rw [← List.append_assoc]
  exact (before.symm).append_right _

/-- A request that is sent leaves the first trace of its fate, and the others are owed then. -/
theorem leaves_send [Scalar τ] {config : RequestConfig τ} {plan : Plan τ} {w w' : World τ}
    {session : Nat} (known : session < w.transport.sessions.length)
    (transport : w'.transport = (w.transport.receive session (wanted config)).2)
    (collector : w'.collector = w.collector) (laps : w'.laps = w.laps) :
    Leaves config plan w w' []
      (aftermath config (w.transport.nextReply.fate plan.requestTimeout)) := by
  have received := perm_receive w.transport known (wanted config)
  rw [← transport] at received
  have new : (recorded w').Perm (recorded w ++ [.sent (wanted config)]) :=
    perm_recorded [wanted config] [] [] [] received (by simp [collector]) (by simp [collector])
      (by simp [laps])
  have grown : expected config plan w'.transport = expected config plan w.transport ++
      traces config (w.transport.nextReply.fate plan.requestTimeout) :=
    expected_succ config plan (by rw [transport]; rfl) (by rw [transport]; rfl)
  refine ⟨by rw [transport]; rfl, ?_, ?_⟩
  · simp [transport, Transport.receive, Transport.change]
  · intro others balance
    rw [grown]
    -- Counted trace by trace: what is new is the first of what is expected more.
    apply List.perm_iff_count.mpr
    intro trace
    have balance := balance.count_eq trace
    have new := new.count_eq trace
    have split : traces config (w.transport.nextReply.fate plan.requestTimeout) =
        [.sent (wanted config)] ++
          aftermath config (w.transport.nextReply.fate plan.requestTimeout) := rfl
    simp only [split, List.count_append, List.nil_append] at balance new ⊢
    omega

/-! ### Steps of an iteration -/

/-- The stages that an iteration comes to. -/
inductive Course : Iteration.Stage τ Stage → Prop
  | begun : Course (.cued .begun .began)
  | requesting (flight : Flight τ) (ordinary : flight.reply.Ordinary)
      (named : flight.name = metricName) : Course (.requesting .requested flight)
  | answered (response : Response) : Course (.cued .requested (.answered response))
  | faulted (fault : Fault) (ordinary : fault.isOrdinary = true) :
      Course (.cued .requested (.faulted fault))
  | checked (passed : Bool) : Course (.cued .checked (.checked passed))

/-- A client as a run without headers of its own opens it, with one of so many sessions. -/
structure Opened (plan : Plan τ) (sessions : Nat) (client : Client τ) : Prop where
  baseUrl : client.baseUrl = ""
  headers : client.headers = []
  timeout : client.timeout = plan.requestTimeout
  session : ∃ session < sessions, client.session = some session

/-- An iteration that owed these traces goes on and leaves some of them, or it ends and settling it
is all that it owed. -/
structure Proceeds [Scalar τ] (config : RequestConfig τ) (plan : Plan τ) (w : World τ)
    (owed : List Trace) (effect : Iteration.Effect τ Stage) : Prop where
  lowered : effect.stop = false
  silent : effect.interrupt = false
  held : Held w effect.world
  next : (∃ stage pause, effect.next = .going stage pause ∧ Course stage ∧
      Leaves config plan w effect.world owed (owing config stage)) ∨
    ∃ fault, effect.next = .ended fault ∧ Lap.settles fault = true ∧
      owed = [.settled fault.isNone] ∧ effect.world = w

section Steps

variable [Scalar τ] {config : RequestConfig τ} {plan : Plan τ} {w w' : World τ}
  {owed : List Trace}

theorem proceeds_cue (held : Held w w') {state : Stage} {cue : Cue}
    (course : Course (.cued state cue : Iteration.Stage τ Stage))
    (leaves : Leaves config plan w w' owed (owing config (.cued state cue))) :
    Proceeds config plan w owed (Iteration.cue w' state cue) :=
  ⟨rfl, rfl, held, .inl ⟨_, _, rfl, course, leaves⟩⟩

/-- A request goes on its way or is over, and its metric tells of its fate. -/
theorem proceeds_follow (held : Held w w') {flight : Flight τ} (ordinary : flight.reply.Ordinary)
    (named : flight.name = metricName) {progress : Progress τ} (bears : flight.Bears progress)
    (leaves : Leaves config plan w w' owed (aftermath config flight.fate)) :
    Proceeds config plan w owed (Iteration.follow w' .requested progress) := by
  cases progress with
  | waiting delay later =>
    -- A wait on the way changes neither the fate nor the name of the request.
    obtain ⟨fate, name, reply⟩ := bears
    refine ⟨rfl, rfl, held, .inl ⟨_, _, rfl, ?_, ?_⟩⟩
    · exact .requesting later (by rwa [reply]) (name.trans named)
    · rw [owing, fate]
      exact leaves
  | ended metric outcome =>
    obtain ⟨name, ends⟩ := bears
    have kept : Held w { w' with collector := w'.collector.recordRequest metric } :=
      held.trans ⟨rfl, id⟩
    -- Its metric is the first trace that its fate has after the request.
    have measured (after : List Trace) :
        Leaves config plan w' { w' with collector := w'.collector.recordRequest metric }
          (.measured metricName (Collector.isRequestError metric) :: after) after := by
      rw [← named, ← name]
      exact leaves_measure w' metric after
    generalize flight.fate = fate at leaves ends
    cases ends with
    | failed error ordinary =>
      rw [error] at measured
      exact proceeds_cue kept (.faulted _ ordinary) (leaves.trans (measured _))
    | unread responded ordinary =>
      rw [responded] at measured
      exact proceeds_cue kept (.faulted _ ordinary) (leaves.trans (measured _))
    | read response responded =>
      rw [responded] at measured
      exact proceeds_cue kept (.answered response) (leaves.trans (measured _))

/-- Every step of an iteration leaves some of the traces that it owes. -/
theorem proceeds_step {client : Client τ} (opened : Opened plan w.transport.sessions.length client)
    (ordinary : ∀ reply ∈ w.transport.replies, reply.Ordinary) (iteration : Int) (g : Glance τ)
    {stage : Iteration.Stage τ Stage} (course : Course stage) :
    Proceeds config plan w (owing config stage)
      (Iteration.step (body config) client iteration g w stage .elapsed) := by
  cases course with
  | begun =>
    obtain ⟨session, known, connected⟩ := opened.session
    have request : client.request config.url (authorization config.token) = wanted config := by
      simp only [Client.request, opened.baseUrl, opened.headers, String.empty_append]
      rfl
    let flight := flightOf client w.transport g.now config.url (authorization config.token)
      (some metricName)
    have reply : flight.reply.Ordinary := ordinary_replyTo ordinary w.transport.served
    -- The next reply and the timeout of the client settle what becomes of the request.
    have fate : flight.fate = w.transport.nextReply.fate plan.requestTimeout := by
      rw [← opened.timeout]
      rfl
    have begins : Iteration.step (body config) client iteration g w (.cued .begun .began) .elapsed =
        Iteration.perform client iteration g w .requested
          (.get config.url (authorization config.token) (some metricName)) := rfl
    rw [begins, perform_get connected, request]
    refine proceeds_follow ?_ reply rfl (Flight.bears_advance reply g.now) ?_
    · exact ⟨rfl, fun f => ⟨f.connects, f.closes⟩⟩
    · rw [fate]
      exact leaves_send known rfl rfl (laps_record _ _ rfl)
  | requesting flight ordinary named =>
    exact proceeds_follow (.refl w) ordinary named (Flight.bears_advance ordinary g.now) (.refl w _)
  | answered response =>
    -- A response has a status, so the check does not raise, and its result is recorded.
    let result : CheckResult :=
      { name := statusCheck, passed := config.accepted.contains response.status, vu := client.vu,
        iteration }
    have checks : Iteration.step (body config) client iteration g w
        (.cued .requested (.answered response)) .elapsed =
          Iteration.cue ({ w with collector := w.collector.recordCheck result }.record
            (.checked result)) .checked (.checked (true && result.passed)) := rfl
    rw [checks]
    refine proceeds_cue ?_ (.checked _) ?_
    · exact ⟨rfl, id⟩
    · exact leaves_check w result _
  | faulted fault ordinary =>
    -- What is left to do is to settle it by the fault.
    exact ⟨rfl, rfl, .refl w, .inr ⟨some fault, rfl, ordinary, rfl, rfl⟩⟩
  | checked passed => exact ⟨rfl, rfl, .refl w, .inr ⟨none, rfl, rfl, rfl, rfl⟩⟩

end Steps

/-! ### Turns of a user -/

/-- The stages that a user comes to, with so many sessions. -/
inductive Engaged (plan : Plan τ) (sessions : Nat) : VirtualUser.Stage τ Stage → Prop
  | outside : Engaged plan sessions .outside
  | between {client : Client τ} (opened : Opened plan sessions client) :
      Engaged plan sessions (.between client)
  | inside {client : Client τ} {iteration : Nat} {stage : Iteration.Stage τ Stage}
      (opened : Opened plan sessions client) (course : Course stage) :
      Engaged plan sessions (.inside client iteration stage)
  | gone : Engaged plan sessions .gone

theorem Opened.more {plan : Plan τ} {sessions sessions' : Nat} {client : Client τ}
    (opened : Opened plan sessions client) (more : sessions ≤ sessions') :
    Opened plan sessions' client := by
  obtain ⟨baseUrl, headers, timeout, session, known, connected⟩ := opened
  exact ⟨baseUrl, headers, timeout, session, Nat.lt_of_lt_of_le known more, connected⟩

theorem Engaged.more {plan : Plan τ} {sessions sessions' : Nat}
    {stage : VirtualUser.Stage τ Stage} (engaged : Engaged plan sessions stage)
    (more : sessions ≤ sessions') : Engaged plan sessions' stage := by
  cases engaged with
  | outside => exact .outside
  | between opened => exact .between (opened.more more)
  | inside opened course => exact .inside (opened.more more) course
  | gone => exact .gone

/-- A turn disturbs nothing, and leaves some of the traces that the user owed. -/
structure Serves [Scalar τ] (config : RequestConfig τ) (plan : Plan τ) (w : World τ)
    (owed : List Trace) (turn : VirtualUser.UserTurn τ Stage) : Prop where
  gentle : Gentle w turn
  engaged : Engaged plan turn.world.transport.sessions.length turn.state.stage
  leaves : Leaves config plan w turn.world owed (outstanding config turn.state.stage)

section Turns

variable [Scalar τ] {config : RequestConfig τ} {plan : Plan τ} {w : World τ}

omit [Scalar τ] in
/-- A session that closes keeps what it carried. -/
theorem exit_kept (client : Client τ) (t : Transport τ) :
    (client.exit t).2.replies = t.replies ∧ (client.exit t).2.served = t.served ∧
      (client.exit t).2.sessions.length = t.sessions.length := by
  rw [transport_exit]
  split
  · exact ⟨rfl, rfl, rfl⟩
  · exact ⟨rfl, rfl, List.length_modify ..⟩

theorem serves_leave (faultless : Faultless w.transport) (user : VirtualUser τ Stage)
    (client : Client τ) : Serves config plan w [] (user.leave w client .returned) := by
  obtain ⟨held, pause⟩ := leave_of_faultless user w client .returned faultless
  obtain ⟨books, state, -⟩ := leave_eq user w client .returned
  obtain ⟨replies, served, length⟩ := exit_kept client w.transport
  have carried := congrArg List.flatten (carried_exit client w.transport)
  simp only [← List.flatMap_def] at carried
  refine ⟨⟨rfl, rfl, held, by rw [pause]; exact .inr rfl⟩, ?_, ?_⟩
  · rw [state]
    exact .gone
  · rw [state]
    exact leaves_nothing replies served length.ge carried rfl
      (congrArg (fun b => Lap.settled b.laps) books)

theorem serves_enter (headers : plan.headers = []) (faultless : Faultless w.transport)
    (user : VirtualUser τ Stage) : Serves config plan w [] (VirtualUser.enter plan w user) := by
  have connected := transport_connect w.transport plan.requestTimeout
  rcases enter_cases plan w user with ⟨fault, struck, -⟩ | ⟨-, entered⟩
  · rw [faultless.planned_connect] at struck
    cases struck
  · rw [entered, connected]
    refine ⟨⟨rfl, rfl, ?_, .inl rfl⟩, .between ⟨rfl, headers, rfl, _, ?_, rfl⟩, ?_⟩
    · exact ⟨rfl, fun f => ⟨f.connects, f.closes⟩⟩
    · simp [World.record]
    · -- The new session carries nothing yet.
      refine leaves_nothing ?_ ?_ ?_ ?_ ?_ (congrArg Lap.settled (laps_record _ _ rfl))
      all_goals simp [World.record]

/-- As long as the flag is down, a user claims a number, for which it owes nothing until it sends
its request, or it leaves. -/
theorem serves_claim {g : Glance τ} (lowered : g.stop = false) (faultless : Faultless w.transport)
    (user : VirtualUser τ Stage) {client : Client τ}
    (opened : Opened plan w.transport.sessions.length client) :
    Serves config plan w [] (VirtualUser.claim plan (body config) g w user client) := by
  unfold VirtualUser.claim World.claim
  rw [if_neg (by simp [lowered])]
  by_cases free : w.claimed < plan.options.iterations
  · rw [if_pos free]
    refine ⟨⟨rfl, rfl, ?_, .inl rfl⟩, .inside opened .begun, ?_⟩
    · exact ⟨rfl, id⟩
    · exact leaves_nothing rfl rfl (Nat.le_refl _) rfl rfl rfl
  · rw [if_neg free]
    exact serves_leave faultless user client

/-- A user that settles its iteration owes nothing more. -/
theorem serves_conclude (g : Glance τ) (user : VirtualUser τ Stage) {client : Client τ}
    (opened : Opened plan w.transport.sessions.length client) (iteration : Nat)
    {fault : Option Fault} (settles : Lap.settles fault = true) :
    Serves config plan w [.settled fault.isNone]
      (VirtualUser.conclude g w user client iteration fault) := by
  unfold VirtualUser.conclude
  cases fault with
  | none =>
    refine ⟨⟨rfl, rfl, ?_, .inl rfl⟩, .between opened, ?_⟩
    · exact ⟨rfl, id⟩
    · apply leaves_settle user.vu iteration settles
      all_goals rfl
  | some f =>
    have ordinary : f.isOrdinary = true := settles
    dsimp only
    rw [if_pos ordinary]
    refine ⟨⟨rfl, rfl, ?_, .inl rfl⟩, .between opened, ?_⟩
    · exact ⟨rfl, id⟩
    · apply leaves_settle user.vu iteration settles
      all_goals rfl

/-- Every turn of a user that is not dismissed, while the flag is down, leaves some of the traces
that it owes. -/
theorem serves_work (headers : plan.headers = []) {g : Glance τ} (lowered : g.stop = false)
    (faultless : Faultless w.transport) (ordinary : ∀ reply ∈ w.transport.replies, reply.Ordinary)
    (user : VirtualUser τ Stage) (engaged : Engaged plan w.transport.sessions.length user.stage) :
    Serves config plan w (outstanding config user.stage)
      (VirtualUser.work plan (body config) g w user .elapsed) := by
  obtain ⟨vu, stage⟩ := user
  unfold VirtualUser.work
  cases engaged with
  | outside => exact serves_enter headers faultless _
  | between opened => exact serves_claim lowered faultless _ opened
  | @inside client iteration stage opened course =>
    -- Either the iteration goes on, or it ends and is settled in the same turn.
    have proceeds : Proceeds config plan w (owing config stage)
        (Iteration.step (body config) client iteration g w stage .elapsed) :=
      proceeds_step opened ordinary iteration g course
    obtain ⟨still, silent, held, next⟩ := proceeds
    dsimp only
    rcases next with ⟨later, pause, goes, course', leaves⟩ | ⟨fault, ends, settles, owed, same⟩
    · have open_ := outcome_step (body config) client iteration g w stage later .elapsed pause goes
      rw [goes]
      exact ⟨⟨still, silent, held, .inl open_⟩, .inside (opened.more leaves.sessions) course',
        leaves⟩
    · rw [ends, same, outstanding, owed]
      exact serves_conclude g _ opened iteration settles
  | gone => exact ⟨⟨rfl, rfl, .refl w, .inr rfl⟩, .gone, .refl w _⟩

end Turns

end Products

end Volley
