import Volley.Http.Transport
import Volley.Metric

/-!
# The client

A client belongs to a virtual user. It sends requests only while it is open, lays the headers of a
request over its own, and measures every request: whatever way a request ends, one metric comes of
it.

A request in flight is a small state machine that says how long it waits next, so that whoever
drives it can cancel it while it waits.

## Main definitions

- `Http.Client`, with `make`, `enter`, `exit` and `send`.
- `Http.Flight`: a request in flight; `Http.Flight.advance` takes it to its next wait or its end.
-/

namespace Volley

namespace Http

/-- A client: where its requests go, the headers that they all carry, the virtual user that it
belongs to, the total timeout of a request and its session while it is open. -/
structure Client (τ : Type) where
  baseUrl : String
  headers : Headers
  vu : Int
  timeout : τ
  session : Option Nat := none

/-- How far a request in flight has come. -/
inductive Stage where
  | sent
  | expiring
  | responding
  | reading
  deriving DecidableEq, Repr

/-- A request in flight. -/
structure Flight (τ : Type) where
  start : τ
  name : String
  request : Request
  vu : Int
  timeout : τ
  reply : Reply τ
  stage : Stage := .sent

/-- What becomes of a request in flight: it waits, or it is over and measured. -/
inductive Progress (τ : Type) where
  | waiting (delay : τ) (flight : Flight τ)
  | ended (metric : Metric τ) (outcome : Except Fault Response)

namespace Flight

variable {τ : Type} [Scalar τ]

def measure (f : Flight τ) (now : τ) (status : Int) (contentLength : Nat) (error : Option String) :
    Metric τ :=
  -- The latency is in milliseconds.
  { timestamp := f.start, name := f.name, method := f.request.method, url := f.request.url, status,
    latency := (now - f.start) * Scalar.ofNat 1000, contentLength, error, vu := f.vu }

/-- The status that a metric shows if the request fails now: zero before there is a response. -/
def statusSoFar (f : Flight τ) : Int :=
  match f.stage with
  | .reading => f.reply.status
  | _ => 0

def fail (f : Flight τ) (now : τ) (fault : Fault) : Progress τ :=
  .ended (f.measure now f.statusSoFar 0 (some fault.summary)) (.error fault)

/-- The body has arrived: reading it fails or gives the response. -/
def read (f : Flight τ) (now : τ) : Progress τ :=
  match f.reply.readFault with
  | some fault => f.fail now fault.leaving
  | none =>
    -- The length is that of the encoded body.
    .ended (f.measure now f.reply.status f.reply.body.utf8ByteSize none)
      (.ok { status := f.reply.status, body := f.reply.body })

/-- The time of the response has come: the request fails, or its body is read. -/
def respond (f : Flight τ) (now : τ) : Progress τ :=
  match f.reply.fault with
  | some fault => f.fail now fault.leaving
  | none =>
    let reading := { f with stage := .reading }
    match f.reply.readDelay with
    | some delay => .waiting delay reading
    | none => reading.read now

/-- The transport starts on the request. A response that would take longer than a positive total
timeout is given up when the timeout is over. -/
def launch (f : Flight τ) (now : τ) : Progress τ :=
  match f.reply.delay with
  | none => f.respond now
  | some delay =>
    -- A delay of just the timeout is still in time, and zero means that there is no timeout.
    if 0 < f.timeout ∧ f.timeout < delay then .waiting f.timeout { f with stage := .expiring }
    else .waiting delay { f with stage := .responding }

/-- Takes a request to its next wait or its end, after the wait of its stage is over. -/
def advance (f : Flight τ) (now : τ) : Progress τ :=
  match f.stage with
  | .sent => f.launch now
  | .expiring => f.fail now .timedOut
  | .responding => f.respond now
  | .reading => f.read now

end Flight

namespace Client

variable {τ : Type}

/-- A client that is not open. Slashes at the end of the base URL do not count. -/
def make (baseUrl : String) (headers : Headers) (vu : Int) (timeout : τ) : Client τ :=
  { baseUrl := String.ofList (baseUrl.toList.reverse.dropWhile (· == '/')).reverse, headers, vu,
    timeout }

/-- Opens a client with a session of its own. If that fails the client stays as it was. -/
def enter (c : Client τ) (t : Transport τ) : Except Fault (Client τ) × Transport τ :=
  match t.connect c.timeout with
  | (.ok number, t') => (.ok { c with session := some number }, t')
  | (.error fault, t') => (.error fault, t')

/-- Closes the session of a client. A client whose session failed to close keeps it. -/
def exit (c : Client τ) (t : Transport τ) : Except Fault (Client τ) × Transport τ :=
  match c.session with
  | none => (.ok c, t)
  | some number =>
    match t.close number with
    -- The client counts as open still, and may go on sending.
    | (some fault, t') => (.error fault, t')
    | (none, t') => (.ok { c with session := none }, t')

/-- The fault of a request on a client that is not open. -/
def notOpen : Fault :=
  .ordinary "RuntimeError" "HttpClient must be used as an async context manager"

/-- The name under which a request is measured: its path unless it is given one. -/
def metricName (path : String) (name : Option String) : String :=
  match name with
  | none => path
  -- An empty name counts as none.
  | some given => if given = "" then path else given

def request (c : Client τ) (path : String) (headers : Headers) : Request :=
  { method := "GET", url := c.baseUrl ++ path, headers := c.headers.overlay headers }

def send (c : Client τ) (t : Transport τ) (now : τ) (path : String) (headers : Headers)
    (name : Option String) : Except Fault (Flight τ) × Transport τ :=
  match c.session with
  | none => (.error notOpen, t)
  | some number =>
    let request := c.request path headers
    let (reply, t') := t.receive number request
    (.ok { start := now, name := metricName path name, request, vu := c.vu, timeout := c.timeout,
           reply }, t')

end Client

end Http

end Volley
