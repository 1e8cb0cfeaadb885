import Volley.Http.Client
import Volley.Pool

/-!
# Using a client by hand

A visit opens and closes a client, lets time pass and sends requests, one act after another. A
request may be cancelled after some time: it then runs as a task of its own while its caller sleeps.
Every metric goes to a receiver, which may fail after it has taken it. The body of a response is
read once more for the report.

## Main definitions

- `Http.Visit.Act`, `Http.Visit.Event`: the acts and what comes of them.
- `Http.Visit.run`: carries out acts.
-/

namespace Volley

namespace Http

namespace Visit

open Pool

/-- An act of a visit. -/
inductive Act (τ : Type) where
  | enter
  | exit
  | pass (time : τ)
  | get (path : String) (headers : Headers) (name : Option String) (cancelAfter : Option τ)

/-- What came of an act. -/
inductive Ending where
  | entered
  | done
  | answered (response : Response)
  | failed (fault : Fault)

/-- An act is reported with the metrics that it gave. -/
structure Report (τ : Type) where
  metrics : List (Metric τ) := []
  ending : Ending

/-- What takes the metrics: nothing, or a receiver, which may fail every time. -/
inductive Receiver where
  | none
  | taking (fault : Option Fault)

/-- The state of a visit. -/
structure State (τ : Type) where
  client : Client τ
  transport : Transport τ
  now : τ

/-- What a request and its caller share. -/
structure Desk (τ : Type) where
  transport : Transport τ
  metrics : List (Metric τ) := []
  /-- How long it takes to read the body of the response. -/
  reading : Option τ := none
  outcome : Except Fault Response := .error .cancelled

/-- A request as a task: not sent yet, or in flight. -/
inductive Errand (τ : Type) where
  | unsent (client : Client τ) (path : String) (headers : Headers) (name : Option String)
  | flying (flight : Flight τ)

/-- What the caller of a request does. -/
inductive Caller (τ : Type) where
  | calling (errand : Errand τ) (cancelAfter : Option τ)
  | cancelling
  | joining

variable {τ : Type}

def ended (outcome : Except Fault Response) : Outcome :=
  match outcome with
  | .ok _ => .returned
  | .error fault => .failed fault

/-- How long it takes to read the body of the response to a request. -/
def Errand.reading : Errand τ → Option τ
  | .unsent _ _ _ _ => none
  | .flying flight => flight.reply.readDelay

/-- Goes on with a request that has come so far. Its metric goes to the receiver, whose fault takes
the place of the outcome. -/
def follow (receiver : Receiver) (desk : Desk τ) (errand : Errand τ) (progress : Progress τ) :
    Turn τ (Desk τ) (Errand τ) :=
  match progress with
  | .waiting delay flight => { world := desk, state := .flying flight, pause := .sleep delay }
  | .ended metric outcome =>
    -- The receiver takes the metric before it fails.
    let (metrics, outcome) := match receiver with
      | .none => (desk.metrics, outcome)
      | .taking none => (desk.metrics ++ [metric], outcome)
      | .taking (some fault) => (desk.metrics ++ [metric], .error fault.leaving)
    { world := { desk with metrics, outcome, reading := errand.reading }, state := errand,
      pause := .finish (ended outcome) }

def work [Scalar τ] (receiver : Receiver) (g : Glance τ) (desk : Desk τ) (errand : Errand τ)
    (wake : Wake) : Turn τ (Desk τ) (Errand τ) :=
  match errand, wake with
  | .unsent _ _ _ _, .dismissed =>
    -- A task that is cancelled before its first turn sends nothing.
    { world := desk, state := errand, pause := .finish (.failed .cancelled) }
  | .unsent client path headers name, .elapsed =>
    match client.send desk.transport g.now path headers name with
    | (.error fault, transport) =>
      { world := { desk with transport, outcome := .error fault }, state := errand,
        pause := .finish (.failed fault) }
    | (.ok flight, transport) =>
      follow receiver { desk with transport } errand (flight.advance g.now)
  | .flying flight, .elapsed => follow receiver desk errand (flight.advance g.now)
  | .flying flight, .dismissed => follow receiver desk errand (flight.fail g.now .cancelled)

/-- A turn of the caller: it starts the request, cancels it if it is to, and waits for its end. -/
def supervise (_ : Glance τ) (desk : Desk τ) (caller : Caller τ) :
    Command τ (Desk τ) (Caller τ) (Errand τ) :=
  match caller with
  | .calling errand none =>
    { world := desk, state := .joining, hire := [errand], order := .wait [0] none }
  | .calling errand (some time) =>
    { world := desk, state := .cancelling, hire := [errand], order := .sleep time }
  | .cancelling => { world := desk, state := .joining, dismiss := [0], order := .wait [0] none }
  | .joining => { world := desk, state := .joining, order := .finish }

def system [Scalar τ] (receiver : Receiver) : System τ (Desk τ) (Caller τ) (Errand τ) where
  work := work receiver
  supervise := supervise
  interrupted _ desk := desk

/-- The time at which the body of a response has been read once more. -/
def reread [Scalar τ] (desk : Desk τ) (now : τ) : τ :=
  match desk.outcome, desk.reading with
  | .ok _, some delay => if 0 < delay then now + delay else now
  | _, _ => now

/-- Sends a request and waits for its end. A demand to exit is the outcome of the request like any
other fault, unless the request is a task of its own: then it ends the visit. -/
def get [Scalar τ] (receiver : Receiver) (s : State τ) (path : String) (headers : Headers)
    (name : Option String) (cancelAfter : Option τ) (budget : Nat) :
    Except Fault (Report τ × State τ) :=
  let start : Pool.State τ (Desk τ) (Caller τ) (Errand τ) :=
    { now := s.now, supervisor := .calling (.unsent s.client path headers name) cancelAfter,
      world := { transport := s.transport } }
  let ended := conduct (system receiver) budget start
  let desk := ended.world
  let ending := match desk.outcome with
    | .ok response => .answered response
    | .error fault => .failed fault
  -- A demand to exit ends the visit if a task of its own made it; a plain call only fails by it.
  match cancelAfter, ended.demand with
  | some _, some fault => .error fault
  | _, _ =>
    .ok ({ metrics := desk.metrics, ending },
      { s with transport := desk.transport, now := reread desk ended.now })

def act [Scalar τ] (receiver : Receiver) (budget : Nat) (s : State τ) :
    Act τ → Except Fault (Report τ × State τ)
  | .enter =>
    match s.client.enter s.transport with
    | (.ok client, transport) => .ok ({ ending := .entered }, { s with client, transport })
    | (.error fault, transport) => .ok ({ ending := .failed fault }, { s with transport })
  | .exit =>
    match s.client.exit s.transport with
    | (.ok client, transport) => .ok ({ ending := .done }, { s with client, transport })
    | (.error fault, transport) => .ok ({ ending := .failed fault }, { s with transport })
  | .pass time => .ok ({ ending := .done }, { s with now := s.now + time })
  | .get path headers name cancelAfter => get receiver s path headers name cancelAfter budget

def run [Scalar τ] (receiver : Receiver) (budget : Nat) (s : State τ) :
    List (Act τ) → Except Fault (List (Report τ) × State τ)
  | [] => .ok ([], s)
  | first :: rest =>
    match act receiver budget s first with
    | .error fault => .error fault
    | .ok (report, next) =>
      match run receiver budget next rest with
      | .error fault => .error fault
      | .ok (reports, last) => .ok (report :: reports, last)

end Visit

end Http

end Volley
