import Volley.Proofs.Http.Conclusion
import Volley.Proofs.Pool.Schedule
import Volley.Scalar.Rational

/-!
# One request, one metric

A call of a client sends one request and gives one metric. Its turns are the first, with which it
starts, and one after each of its waits. At each of them it may be cancelled, and whatever way it
ends, its metric and its outcome tell the same story.

## Main definitions

- `Http.Visit.Call`: the turns of a call, each after a wait that elapsed or was cut short.
- `Http.Visit.Calling`: the request of a visit has not begun, or is a call.
- `Http.Visit.Measured`: what a call has sent and what was measured of it.

## Main results

- `stands_of_call`: a call is under way, or over and measured.
- `calling_conduct`: a visit makes a call of its request.
- `one_metric_of_call`: a call sends one request and gives one metric, which is truthful.
-/

namespace Volley

namespace Http

open Pool

variable {τ : Type}

/-! ### Calls -/

namespace Visit

variable [Scalar τ]

/-- The turns of a request: the first, with which it starts, and one after each of its waits. Each
wait is listed with its end and with how it ended. -/
inductive Call (receiver : Receiver) (desk : Desk τ) (errand : Errand τ) (start : τ) :
    List (τ × Wake) → Turn τ (Desk τ) (Errand τ) → Prop
  | begun {g : Glance τ} (now : g.now = start) :
      Call receiver desk errand start [] (work receiver g desk errand .elapsed)
  | resumed {past : List (τ × Wake)} {turn : Turn τ (Desk τ) (Errand τ)}
      (before : Call receiver desk errand start past turn) (pausing : turn.pause.outcome? = none)
      (g : Glance τ) (wake : Wake) :
      Call receiver desk errand start (past ++ [(g.now, wake)])
        (work receiver g turn.world turn.state wake)

/-- How far the request of a visit has come: its caller has not started it, or it has not begun, or
it is a call. -/
inductive Calling (receiver : Receiver) (desk : Desk τ) (errand : Errand τ)
    (v : View (Desk τ) (Caller τ) (Errand τ)) : Prop
  | before {cancelAfter : Option τ} (caller : v.supervisor = .calling errand cancelAfter)
      (nobody : v.crew = []) (world : v.world = desk)
  | unbegun {standing : Standing (Errand τ)}
      (caller : v.supervisor = .cancelling ∨ v.supervisor = .joining) (alone : v.crew = [standing])
      (state : standing.state = errand) (world : v.world = desk)
  | called {standing : Standing (Errand τ)} {start : τ} {past : List (τ × Wake)}
      {turn : Turn τ (Desk τ) (Errand τ)}
      (caller : v.supervisor = .cancelling ∨ v.supervisor = .joining) (alone : v.crew = [standing])
      (call : Call receiver desk errand start past turn) (state : standing.state = turn.state)
      (outcome : standing.outcome = turn.pause.outcome?) (world : v.world = turn.world)

section Pool

variable {receiver : Receiver} {desk : Desk τ} {client : Client τ} {path : String}
  {extra : Headers} {name : Option String} {s : Pool.State τ (Desk τ) (Caller τ) (Errand τ)}

theorem calling_runWorker {i : Nat} {w : Worker (Errand τ)} (found : s.workers[i]? = some w)
    (active : w.outcome? = none)
    (calling : Calling receiver desk (.unsent client path extra name) s.view) :
    Calling receiver desk (.unsent client path extra name)
      (runWorker (system receiver) s i).view := by
  have placed : s.view.crew[i]? = some w.standing := by simp [Pool.State.view, found]
  -- There is only one worker.
  have only {standing : Standing (Errand τ)} (alone : s.view.crew = [standing]) :
      i = 0 ∧ w.standing = standing := by
    rw [alone] at placed
    cases i with
    | zero => exact ⟨rfl, (Option.some.inj placed).symm⟩
    | succ i => cases placed
  have after {standing : Standing (Errand τ)} (alone : s.view.crew = [standing])
      (turn : Turn τ (Desk τ) (Errand τ)) : (s.view.afterTurn 0 turn).crew =
        [{ state := turn.state, dismissed := false, outcome := turn.pause.outcome? }] := by
    simp [View.afterTurn, alone]
  rw [view_runWorker _ s i w found active]
  generalize (if w.dismissed then Wake.dismissed else .elapsed) = wake
  cases calling with
  -- Before the caller has started its request there is nobody to take a turn.
  | before caller nobody world =>
    rw [nobody] at placed
    cases placed
  | unbegun caller alone state world =>
    obtain ⟨rfl, rfl⟩ := only alone
    rw [show s.world = desk from world, show w.state = _ from state]
    cases wake with
    | elapsed => exact .called caller (after alone _) (.begun rfl) rfl rfl rfl
    | dismissed => exact .unbegun caller (after alone _) rfl rfl
  | @called standing start past turn caller alone call state outcome world =>
    obtain ⟨rfl, rfl⟩ := only alone
    rw [show s.world = turn.world from world, show w.state = turn.state from state]
    -- It has a turn, so it had paused with the one before.
    have pausing : turn.pause.outcome? = none := outcome.symm.trans active
    exact .called caller (after alone _) (.resumed call pausing s.glance wake) rfl rfl rfl

theorem calling_runSupervisor (kept : s.givenUp = false) (working : s.view.finished = false)
    (calling : Calling receiver desk (.unsent client path extra name) s.view) :
    Calling receiver desk (.unsent client path extra name)
      (runSupervisor (system receiver) s).view := by
  rw [view_runSupervisor _ s kept working]
  have commands (caller : Caller τ) (here : s.view.supervisor = caller) :
      (system receiver).supervise s.glance s.world s.supervisor =
        supervise s.glance s.world caller := by
    rw [← here]
    rfl
  -- A caller that has started its request hires nobody and leaves the desk alone.
  have later (started : s.view.supervisor = .cancelling ∨ s.view.supervisor = .joining)
      {standing : Standing (Errand τ)} (alone : s.view.crew = [standing]) :
      ∃ dismissed,
        (s.view.afterCommand ((system receiver).supervise s.glance s.world s.supervisor)).crew =
          [{ standing with dismissed }] ∧
        (s.view.afterCommand ((system receiver).supervise s.glance s.world s.supervisor)).world =
          s.view.world ∧
        (s.view.afterCommand
          ((system receiver).supervise s.glance s.world s.supervisor)).supervisor = .joining := by
    rcases started with here | here
    · rw [commands _ here]
      refine ⟨standing.dismiss.dismissed, ?_, rfl, rfl⟩
      unfold Standing.dismiss
      split
      next ended => simp [View.afterCommand, supervise, alone, dismissAt, Standing.dismiss, ended]
      next active => simp [View.afterCommand, supervise, alone, dismissAt, Standing.dismiss, active]
    · rw [commands _ here]
      exact ⟨standing.dismissed, by simp [View.afterCommand, supervise, alone], rfl, rfl⟩
  cases calling with
  | @before cancelAfter caller nobody world =>
    -- A caller that has just started waits for its request, with or without a limit.
    rw [commands _ caller]
    cases cancelAfter with
    | none =>
      exact .unbegun (.inr rfl) (by simp [View.afterCommand, supervise, nobody]; rfl) rfl world
    | some time =>
      exact .unbegun (.inl rfl) (by simp [View.afterCommand, supervise, nobody]; rfl) rfl world
  | unbegun caller alone state world =>
    obtain ⟨dismissed, alone', world', caller'⟩ := later caller alone
    exact .unbegun (.inr caller') alone' state (world'.trans world)
  | called caller alone call state outcome world =>
    obtain ⟨dismissed, alone', world', caller'⟩ := later caller alone
    exact .called (.inr caller') alone' call state outcome (world'.trans world)

/-- Whatever the schedule, the request of a visit is a call once it has begun. -/
theorem calling_moves {t : Pool.State τ (Desk τ) (Caller τ) (Errand τ)}
    (moves : Relation.ReflTransGen (Moves (system receiver)) s t) (kept : s.givenUp = false)
    (calling : Calling receiver desk (.unsent client path extra name) s.view) :
    t.givenUp = false ∧ Calling receiver desk (.unsent client path extra name) t.view := by
  induction moves with
  | refl => exact ⟨kept, calling⟩
  | tail _ move ih =>
    obtain ⟨kept, calling⟩ := ih
    have kept' {u v : Pool.State τ (Desk τ) (Caller τ) (Errand τ)}
        (same : v.view.givenUp = u.view.givenUp) (kept : u.givenUp = false) : v.givenUp = false :=
      same.trans kept
    cases move with
    | reschedule same => exact ⟨kept' (by rw [same]) kept, same ▸ calling⟩
    | worker i w found active =>
      exact ⟨kept' (by rw [view_runWorker _ _ i w found active]; rfl) kept,
        calling_runWorker found active calling⟩
    | supervisor working =>
      exact ⟨kept' (by rw [view_runSupervisor _ _ kept working]; rfl) kept,
        calling_runSupervisor kept working calling⟩
    | @interrupt u taken =>
      refine ⟨kept' (by rw [view_runInterrupt, taken]) kept, ?_⟩
      rw [taken] at calling
      rw [view_runInterrupt]
      -- What the interrupt changes is not looked at.
      cases calling with
      | before caller nobody world => exact .before caller nobody world
      | unbegun caller alone state world => exact .unbegun caller alone state world
      | called caller alone call state outcome world =>
        exact .called caller alone call state outcome world

theorem calling_conduct (now : τ) (cancelAfter : Option τ) (k : Nat) :
    Calling receiver desk (.unsent client path extra name)
      (conduct (system receiver) k
        { now, supervisor := .calling (.unsent client path extra name) cancelAfter,
          world := desk }).view := by
  obtain ⟨moves, -⟩ := moves_conduct (system receiver) k
    { now, supervisor := .calling (.unsent client path extra name) cancelAfter, world := desk }
    (inTurn_new _ _ _)
  exact (calling_moves moves rfl (.before rfl rfl rfl)).2

end Pool

/-- Where a request in flight stands after waits that have all elapsed. -/
structure UnderWay (sent : Flight τ) (desk : Desk τ) (past : List (τ × Wake))
    (turn : Turn τ (Desk τ) (Errand τ)) : Prop where
  world : turn.world = desk
  elapsed : ∀ moment ∈ past, moment.2 = .elapsed
  flying : ∃ (done : List (Wait τ)) (wait : Wait τ) (later : Flight τ),
    turn.state = .flying later ∧ turn.pause = .sleep wait.time ∧ done.length = past.length ∧
      sent.ahead = done ++ wait :: later.ahead ∧ later = { sent with stage := later.stage } ∧
      later.conclusion = sent.conclusion ∧ (later.stage = .reading ↔ wait.arrived = true)

/-- How a request stands that is over, and measured. -/
structure Over (sent : Flight τ) (desk : Desk τ) (past : List (τ × Wake))
    (turn : Turn τ (Desk τ) (Errand τ)) : Prop where
  transport : turn.world.transport = desk.transport
  ends : ∃ c, Ends sent.ahead sent.conclusion past c ∧ turn.pause = .finish (ended c.outcome) ∧
    turn.world.outcome = c.outcome ∧
    turn.world.metrics = desk.metrics ++ [sent.metricOf (lastTurn sent.start past) c]

/-- What a receiver of metrics that does not fail makes of a move of a request. -/
theorem stands_of_follows {sent f : Flight τ} {desk : Desk τ} {errand : Errand τ}
    {past : List (τ × Wake)} {done : List (Wait τ)} {progress : Progress τ} {now : τ}
    (follows : f.Follows now progress) (same : f = { sent with stage := f.stage })
    (ahead : sent.ahead = done ++ f.ahead) (conclusion : f.conclusion = sent.conclusion)
    (count : done.length = past.length) (elapsed : ∀ moment ∈ past, moment.2 = .elapsed)
    (last : lastTurn sent.start past = now) :
    UnderWay sent desk past (follow (.taking none) desk errand progress) ∨
      Over sent desk past (follow (.taking none) desk errand progress) := by
  cases progress with
  | waiting time later =>
    obtain ⟨wait, first, rfl, later_, conclusion', reading⟩ := follows
    refine .inl ⟨rfl, elapsed, done, wait, later, rfl, rfl, count, ?_, ?_, ?_, reading⟩
    · rw [ahead, first]
    · rw [later_, same]
    · rw [conclusion', conclusion]
  | ended metric outcome =>
    obtain ⟨nothing, rfl, rfl⟩ := follows
    refine .inr ⟨rfl, f.conclusion, ?_, rfl, rfl, ?_⟩
    · rw [conclusion]
      exact .alone elapsed (by rw [ahead, nothing, List.append_nil, count])
    · rw [last, same]
      rfl

/-- A request as it is sent. -/
def sentBy (client : Client τ) (transport : Transport τ) (start : τ) (path : String)
    (extra : Headers) (name : Option String) : Flight τ :=
  { start, name := Client.metricName path name, request := client.request path extra,
    vu := client.vu, timeout := client.timeout, reply := transport.nextReply }

section Calls

variable {client : Client τ} {number : Nat} {desk : Desk τ} {path : String} {extra : Headers}
  {name : Option String} {start : τ} {past : List (τ × Wake)} {turn : Turn τ (Desk τ) (Errand τ)}

/-- What the desk is like once the request is sent. -/
def sentFrom (desk : Desk τ) (number : Nat) (request : Request) : Desk τ :=
  { desk with transport := (desk.transport.receive number request).2 }

/-- A call is under way, or over and measured. -/
theorem stands_of_call (held : client.session = some number)
    (call : Call (.taking none) desk (.unsent client path extra name) start past turn) :
    UnderWay (sentBy client desk.transport start path extra name)
        (sentFrom desk number (client.request path extra)) past turn ∨
      Over (sentBy client desk.transport start path extra name)
        (sentFrom desk number (client.request path extra)) past turn := by
  induction call with
  | @begun g now =>
    have sends : work (.taking none) g desk (.unsent client path extra name) .elapsed =
        follow (.taking none) (sentFrom desk number (client.request path extra))
          (.unsent client path extra name)
          ((sentBy client desk.transport start path extra name).advance start) := by
      simp only [work, Client.send, held, now]
      rfl
    rw [sends]
    have ahead : (sentBy client desk.transport start path extra name).ahead =
        [] ++ (sentBy client desk.transport start path extra name).ahead := rfl
    exact stands_of_follows (Flight.follows_advance _ _) rfl ahead rfl rfl nofun rfl
  | @resumed past turn _ pausing g wake ih =>
    rcases ih with underWay | settled
    · -- In a call under way the flight stands at a wait, and the turn is what becomes of that.
      obtain ⟨done, wait, later, state, -, count, ahead, same, conclusion, reading⟩ :=
        underWay.flying
      rw [underWay.world, state]
      cases wake with
      | elapsed =>
        have ahead' : (sentBy client desk.transport start path extra name).ahead =
            (done ++ [wait]) ++ later.ahead := by
          rw [ahead, List.append_assoc]
          rfl
        apply stands_of_follows (Flight.follows_advance later g.now) same ahead' conclusion
          (by simp [count])
        · intro moment member
          rcases List.mem_append.mp member with before | now
          · exact underWay.elapsed moment before
          · rw [List.mem_singleton.mp now]
        · simp [lastTurn]
      | dismissed =>
        -- The wait that is cut short is the one that comes after those that elapsed.
        have current : (sentBy client desk.transport start path extra name).ahead[past.length]? =
            some wait := by
          rw [ahead, ← count]
          simp
        refine .inr ⟨rfl, _, .cancelled g.now underWay.elapsed current, ?_, ?_, ?_⟩
        all_goals
          simp only [work, follow, Flight.cancelled_eq reading]
        rw [same]
        simp [lastTurn, Flight.metricOf, Flight.measure]
    · -- Who has its outcome takes no turn any more.
      obtain ⟨c, -, pause, -⟩ := settled.ends
      rw [pause] at pausing
      cases pausing

/-- The metric of a request tells how the call ended. -/
theorem truthful_metricOf (client : Client τ) (transport : Transport τ) (start : τ) (path : String)
    (extra : Headers) (name : Option String) (finish : τ) (c : Conclusion) :
    Truthful start finish (client.baseUrl ++ path) path name client.vu transport.nextReply.status c
      ((sentBy client transport start path extra name).metricOf finish c) := by
  obtain ⟨outcome, arrived⟩ := c
  cases outcome with
  | ok response =>
    refine ⟨rfl, rfl, rfl, rfl, ?_, fun unnamed => metricName_of_unnamed unnamed path, rfl,
      ⟨fun _ => ⟨response, rfl⟩, fun _ => rfl⟩, ?_, nofun⟩
    · rintro given rfl some_
      exact metricName_of_named some_ path
    · rintro _ ⟨⟩
      exact ⟨rfl, rfl⟩
  | error fault =>
    refine ⟨rfl, rfl, rfl, rfl, ?_, fun unnamed => metricName_of_unnamed unnamed path, rfl,
      ⟨nofun, nofun⟩, nofun, ?_⟩
    · rintro given rfl some_
      exact metricName_of_named some_ path
    · rintro _ ⟨⟩
      exact ⟨rfl, rfl, rfl⟩

/-- What a call that has had such waits has sent, and what was measured of it. -/
structure Measured (desk : Desk τ) (number : Nat) (request : Request) (path : String)
    (name : Option String) (vu : Int) (timeout start : τ) (past : List (τ × Wake))
    (turn : Turn τ (Desk τ) (Errand τ)) : Prop where
  sent : Received desk.transport number request turn.world.transport
  /-- As long as it waits there is no metric. It waits twice at most. -/
  waiting : turn.pause.outcome? = none → turn.world.metrics = desk.metrics ∧ past.length < 2 ∧
    (∀ moment ∈ past, moment.2 = .elapsed) ∧
    ∃ wait, (desk.transport.nextReply.waits timeout)[past.length]? = some wait ∧
      turn.pause = .sleep wait.time
  /-- When it ends there is one metric, which tells how. -/
  ended : ∀ outcome, turn.pause = .finish outcome → ∃ metric c,
    turn.world.metrics = desk.metrics ++ [metric] ∧ turn.world.outcome = c.outcome ∧
    outcome = ended c.outcome ∧
    Ends (desk.transport.nextReply.waits timeout) (desk.transport.nextReply.conclusion timeout)
      past c ∧
    Truthful start (lastTurn start past) request.url path name vu desk.transport.nextReply.status c
      metric

theorem measured_of_call (held : client.session = some number)
    (known : number < desk.transport.sessions.length)
    (call : Call (.taking none) desk (.unsent client path extra name) start past turn) :
    Measured desk number (client.request path extra) path name client.vu client.timeout start past
      turn := by
  have received := received_receive known (client.request path extra)
  rcases stands_of_call held call with underWay | settled
  · obtain ⟨done, wait, later, -, pause, count, ahead, -⟩ := underWay.flying
    have ahead : desk.transport.nextReply.waits client.timeout = done ++ wait :: later.ahead :=
      ahead
    -- What is ahead is part of all its waits, of which there are two at most.
    have short := length_waits_le client.timeout desk.transport.nextReply
    refine ⟨?_, fun _ => ⟨?_, ?_, underWay.elapsed, wait, ?_, pause⟩, ?_⟩
    · rw [underWay.world, sentFrom]
      exact received
    · rw [underWay.world, sentFrom]
    · rw [ahead, List.length_append, List.length_cons] at short
      omega
    · rw [ahead, ← count]
      simp
    · intro outcome finishes
      rw [pause] at finishes
      cases finishes
  · obtain ⟨c, ends, pause, outcome, metrics⟩ := settled.ends
    refine ⟨?_, ?_, ?_⟩
    · rw [settled.transport, sentFrom]
      exact received
    · intro pausing
      rw [pause] at pausing
      cases pausing
    · intro finished finishes
      rw [pause] at finishes
      exact ⟨_, c, metrics, outcome, (Pause.finish.inj finishes).symm, ends,
        truthful_metricOf client desk.transport start path extra name _ c⟩

/-- One call of a client that has been entered, for a receiver that takes its metrics, whatever the
transport does and wherever the call is cancelled. It sends one request, to the base URL without the
slashes at its end followed by the path, and one metric is made of it, which tells how the call
ended. Such a call is what a visit makes of a request, once it has begun. -/
theorem one_metric_of_call (path : String) (extra : Headers) (name : Option String) {base : String}
    {headers : Headers} {vu : Int} {timeout : τ} {before : Transport τ}
    (entered : ((Client.make base headers vu timeout).enter before).1 = .ok client)
    (held : client.session = some number) (known : number < desk.transport.sessions.length) :
    ∃ site, Unslashed base site ∧
      (∀ start past turn,
        Call (.taking none) desk (.unsent client path extra name) start past turn →
          Measured desk number
            { method := "GET", url := site ++ path, headers := headers.overlay extra } path name vu
            timeout start past turn) ∧
      ∀ now cancelAfter k, Calling (.taking none) desk (.unsent client path extra name)
        (conduct (system (.taking none)) k
          { now, supervisor := .calling (.unsent client path extra name) cancelAfter,
            world := desk }).view := by
  have client_ := eq_of_enter entered
  refine ⟨client.baseUrl, ?_, fun start past turn call => ?_, calling_conduct⟩
  · rw [client_]
    exact unslashed_make base headers vu timeout
  · have measured := measured_of_call held known call
    rw [client_] at measured ⊢
    exact measured

end Calls

/-! ### A call that is cancelled while it reads -/

namespace Severed

def before : Transport Rat :=
  { replies := [{ status := 503, body := "busy", delay := some 2, readDelay := some 3 }] }

def client : Client Rat :=
  { (Client.make "http://shop.example//" [] 7 60 : Client Rat) with session := some 0 }

def desk : Desk Rat :=
  { transport := (before.connect 60).2 }

def errand : Errand Rat :=
  .unsent client "/products" [] (some "")

def glance (now : Rat) : Glance Rat :=
  { now, stop := false, outcomes := [none] }

/-- The request is sent at 1, the response arrives at 3, and at 5 the call is cancelled. -/
def turns : List (Turn Rat (Desk Rat) (Errand Rat)) :=
  let sent := work (.taking none) (glance 1) desk errand .elapsed
  let reads := work (.taking none) (glance 3) sent.world sent.state .elapsed
  let turn := work (.taking none) (glance 5) reads.world reads.state .dismissed
  [sent, reads, turn]

theorem call_turns : ∀ turn ∈ turns.getLast?,
    Call (.taking none) desk errand 1 [(3, .elapsed), (5, .dismissed)] turn := by
  have sent : Call (.taking none) desk errand 1 [] _ := .begun (g := glance 1) rfl
  have reads := Call.resumed sent (by decide +kernel) (glance 3) .elapsed
  rintro turn ⟨⟩
  exact .resumed reads (by decide +kernel) (glance 5) .dismissed

/-- The status of the response is in the metric, though the call is cancelled. -/
theorem one_metric_severed : ∃ turn,
    (∃ site, Unslashed "http://shop.example//" site ∧
      Measured desk 0 { method := "GET", url := site ++ "/products", headers := [] } "/products"
        (some "") 7 60 1 [(3, .elapsed), (5, .dismissed)] turn) ∧
    turn.world.metrics.map (fun metric => (metric.url, metric.status, metric.error)) =
      [("http://shop.example/products", 503, some "CancelledError: ")] := by
  have entered : ((Client.make "http://shop.example//" [] 7 60).enter before).1 = .ok client := rfl
  have held : client.session = some 0 := rfl
  have known : 0 < desk.transport.sessions.length := by decide
  obtain ⟨site, unslashed, measured, -⟩ :=
    one_metric_of_call "/products" [] (some "") entered held known
  exact ⟨_, ⟨site, unslashed, measured 1 _ _ (call_turns _ rfl)⟩, by decide +kernel⟩

end Severed

end Visit

end Http

end Volley
