import Volley.Http.Visit
import Volley.Proofs.Pool.View

/-!
# The end of a request

The reply to a request and the timeout of its client settle what the request waits for, and how it
ends if it is left alone. If it is cancelled, then at one of its waits. Whatever way it ends, there
is one metric of it, and it tells how the request ended.

## Main definitions

- `Http.Reply.waits`, `Http.Reply.conclusion`: what a request waits for, and its end if left alone.
- `Http.Ends`: how a request ends after the waits that it had.
- `Http.Truthful`: a metric that tells how a request ended.

## Main results

- `Flight.follows_advance`: one move of a request in flight.
- `Flight.cancelled_eq`: its cancellation.
-/

namespace Volley

namespace Http

open Pool

variable {τ : Type}

/-! ### A call that is left alone -/

/-- How a call ends: its outcome, and whether the response had arrived by then. -/
structure Conclusion where
  outcome : Except Fault Response
  arrived : Bool

/-- A wait of a call: how long it takes, and whether the response has arrived before it. -/
structure Wait (τ : Type) where
  time : τ
  arrived : Bool

namespace Reply

/-- The body is read, or cannot be. -/
def onBody (reply : Reply τ) : Conclusion :=
  match reply.readFault with
  | some fault => { outcome := .error fault.leaving, arrived := true }
  | none => { outcome := .ok { status := reply.status, body := reply.body }, arrived := true }

/-- The response arrives, or the request fails. -/
def onDue (reply : Reply τ) : Conclusion :=
  match reply.fault with
  | some fault => { outcome := .error fault.leaving, arrived := false }
  | none => reply.onBody

/-- A call waits for the body of a response, if there is one and it takes time. -/
def bodyWaits (reply : Reply τ) : List (Wait τ) :=
  match reply.fault with
  | some _ => []
  | none => reply.readDelay.toList.map fun time => { time, arrived := true }

variable [Scalar τ]

/-- What a call with this timeout waits for, one after another. -/
def waits (timeout : τ) (reply : Reply τ) : List (Wait τ) :=
  match reply.delay with
  | none => reply.bodyWaits
  | some delay =>
    if 0 < timeout ∧ timeout < delay then [{ time := timeout, arrived := false }]
    else { time := delay, arrived := false } :: reply.bodyWaits

/-- How a call with this timeout ends unless it is cancelled. -/
def conclusion (timeout : τ) (reply : Reply τ) : Conclusion :=
  match reply.delay with
  | none => reply.onDue
  | some delay =>
    if 0 < timeout ∧ timeout < delay then { outcome := .error .timedOut, arrived := false }
    else reply.onDue

end Reply

namespace Flight

variable [Scalar τ] (f : Flight τ)

/-- What is still to be waited for when the wait of its stage is over. -/
def ahead : List (Wait τ) :=
  match f.stage with
  | .sent => f.reply.waits f.timeout
  | .expiring => []
  | .responding => f.reply.bodyWaits
  | .reading => []

/-- How it ends unless it is cancelled. -/
def conclusion : Conclusion :=
  match f.stage with
  | .sent => f.reply.conclusion f.timeout
  | .expiring => { outcome := .error .timedOut, arrived := false }
  | .responding => f.reply.onDue
  | .reading => f.reply.onBody

/-- The metric of a request that ends now. -/
def metricOf (now : τ) (c : Conclusion) : Metric τ :=
  match c.outcome with
  | .ok response => f.measure now response.status response.body.utf8ByteSize none
  | .error fault => f.measure now (if c.arrived then f.reply.status else 0) 0 (some fault.summary)

/-- A request goes on: it waits for what is first ahead of it, or it is over. -/
def Follows (now : τ) : Progress τ → Prop
  | .waiting time later => ∃ wait, f.ahead = wait :: later.ahead ∧ wait.time = time ∧
      later = { f with stage := later.stage } ∧ later.conclusion = f.conclusion ∧
      (later.stage = .reading ↔ wait.arrived = true)
  | .ended metric outcome =>
    f.ahead = [] ∧ metric = f.metricOf now f.conclusion ∧ outcome = f.conclusion.outcome

variable {f}

omit [Scalar τ] in
theorem statusSoFar_eq {arrived : Bool} (reading : f.stage = .reading ↔ arrived = true) :
    f.statusSoFar = if arrived then f.reply.status else 0 := by
  unfold statusSoFar
  split
  next here => rw [if_pos (reading.mp here)]
  next other => rw [if_neg fun arrived => other (reading.mpr arrived)]

/-- The metric of a request that fails. -/
theorem metricOf_error {arrived : Bool} (reading : f.stage = .reading ↔ arrived = true) (now : τ)
    (fault : Fault) : f.measure now f.statusSoFar 0 (some fault.summary) =
      f.metricOf now { outcome := .error fault, arrived } := by
  rw [statusSoFar_eq reading]
  rfl

/-- A body that is read at once ends the request, as it is or by the fault of reading it. -/
theorem read_eq (reading : f.stage = .reading) (now : τ) :
    f.read now = .ended (f.metricOf now f.reply.onBody) f.reply.onBody.outcome := by
  unfold Flight.read Reply.onBody
  cases broken : f.reply.readFault with
  | some fault =>
    have arrived : f.stage = .reading ↔ true = true := by simp [reading]
    dsimp only [Flight.fail]
    rw [metricOf_error arrived]
  | none => rfl

/-- The wait for the response, if there was one, is over. -/
theorem follows_respond (early : f.stage ≠ .reading) (ahead : f.ahead = f.reply.bodyWaits)
    (conclusion : f.conclusion = f.reply.onDue) (now : τ) : f.Follows now (f.respond now) := by
  unfold Flight.respond
  cases broken : f.reply.fault with
  | some fault =>
    -- A request that fails waits for no body.
    rw [Reply.onDue, broken] at conclusion
    rw [Reply.bodyWaits, broken] at ahead
    refine ⟨ahead, ?_, by rw [conclusion]⟩
    rw [conclusion]
    exact metricOf_error (by simp [early]) now _
  | none =>
    rw [Reply.onDue, broken] at conclusion
    rw [Reply.bodyWaits, broken] at ahead
    dsimp only
    -- The body takes its time, or it is read in the same move.
    cases slow : f.reply.readDelay with
    | some delay =>
      rw [slow] at ahead
      exact ⟨_, ahead, rfl, rfl, conclusion.symm, by simp⟩
    | none =>
      rw [slow] at ahead
      rw [read_eq rfl]
      exact ⟨ahead, by rw [conclusion]; rfl, by rw [conclusion]⟩

theorem follows_advance (f : Flight τ) (now : τ) : f.Follows now (f.advance now) := by
  -- By what the request in flight has waited for.
  cases stage : f.stage with
  | sent =>
    have early : f.stage ≠ .reading := by simp [stage]
    have ahead : f.ahead = f.reply.waits f.timeout := by rw [Flight.ahead, stage]
    have conclusion : f.conclusion = f.reply.conclusion f.timeout := by
      rw [Flight.conclusion, stage]
    simp only [Flight.advance, stage, Flight.launch]
    unfold Reply.waits at ahead
    unfold Reply.conclusion at conclusion
    cases delay : f.reply.delay with
    | none =>
      rw [delay] at ahead conclusion
      exact follows_respond early ahead conclusion now
    | some delay =>
      rw [delay] at ahead conclusion
      dsimp only at ahead conclusion ⊢
      split
      -- A timeout before the delay is what is waited for, and then the request has expired.
      next expires =>
        rw [if_pos expires] at ahead conclusion
        exact ⟨_, ahead, rfl, rfl, conclusion.symm, by simp⟩
      next responds =>
        rw [if_neg responds] at ahead conclusion
        exact ⟨_, ahead, rfl, rfl, conclusion.symm, by simp⟩
  | expiring =>
    simp only [Flight.advance, stage]
    refine ⟨by rw [Flight.ahead, stage], ?_, by rw [Flight.conclusion, stage]⟩
    rw [Flight.conclusion, stage]
    exact metricOf_error (by simp [stage]) now _
  | responding =>
    simp only [Flight.advance, stage]
    exact follows_respond (by simp [stage]) (by rw [Flight.ahead, stage])
      (by rw [Flight.conclusion, stage]) now
  | reading =>
    simp only [Flight.advance, stage]
    rw [read_eq stage]
    exact ⟨by rw [Flight.ahead, stage], by rw [Flight.conclusion, stage],
      by rw [Flight.conclusion, stage]⟩

end Flight

/-! ### The waits of a call -/

/-- How a call ends after the waits that it had: it is left alone at all of them, or it is cancelled
at the last of those. -/
inductive Ends (waits : List (Wait τ)) (alone : Conclusion) :
    List (τ × Wake) → Conclusion → Prop
  | alone {past : List (τ × Wake)} (elapsed : ∀ moment ∈ past, moment.2 = .elapsed)
      (all : past.length = waits.length) : Ends waits alone past alone
  | cancelled {past : List (τ × Wake)} {wait : Wait τ} (now : τ)
      (elapsed : ∀ moment ∈ past, moment.2 = .elapsed)
      (current : waits[past.length]? = some wait) :
      Ends waits alone (past ++ [(now, .dismissed)])
        { outcome := .error .cancelled, arrived := wait.arrived }

/-- The time of the last turn of a call. -/
def lastTurn (start : τ) (past : List (τ × Wake)) : τ :=
  (past.getLast?.map Prod.fst).getD start

/-- Nothing but slashes has been taken off the end of a base URL, and none is left there. -/
structure Unslashed (base site : String) : Prop where
  taken : ∃ slashes : List Char, base.toList = site.toList ++ slashes ∧ ∀ c ∈ slashes, c = '/'
  bare : site.toList.getLast? ≠ some '/'

/-- A transport has received one request more, on one of its sessions. -/
def Received (t : Transport τ) (number : Nat) (request : Request) (t' : Transport τ) : Prop :=
  ∃ session, t.sessions[number]? = some session ∧
    t' = { t with
      served := t.served + 1
      sessions := t.sessions.set number { session with requests := session.requests ++ [request] } }

/-- A metric tells how a call ended. -/
structure Truthful [Scalar τ] (start finish : τ) (url path : String) (name : Option String)
    (vu status : Int) (c : Conclusion) (metric : Metric τ) : Prop where
  timestamp : metric.timestamp = start
  latency : metric.latency = (finish - start) * Scalar.ofNat 1000
  method : metric.method = "GET"
  url : metric.url = url
  named : ∀ given, name = some given → given ≠ "" → metric.name = given
  unnamed : name = none ∨ name = some "" → metric.name = path
  vu : metric.vu = vu
  returns : metric.error = none ↔ ∃ response, c.outcome = .ok response
  read : ∀ response, c.outcome = .ok response →
    metric.status = response.status ∧ metric.contentLength = response.body.utf8ByteSize
  failed : ∀ fault, c.outcome = .error fault →
    metric.error = some (fault.name ++ ": " ++ fault.text) ∧ metric.contentLength = 0 ∧
      metric.status = if c.arrived then status else 0

theorem unslashed_make (base : String) (headers : Headers) (vu : Int) (timeout : τ) :
    Unslashed base (Client.make base headers vu timeout).baseUrl := by
  -- Cutting slashes off the end is dropping them from the front of the reverse.
  have whole := List.takeWhile_append_dropWhile (p := (· == '/')) (l := base.toList.reverse)
  refine ⟨⟨(base.toList.reverse.takeWhile (· == '/')).reverse, ?_, ?_⟩, ?_⟩
  · rw [Client.make, String.toList_ofList, ← List.reverse_append, whole, List.reverse_reverse]
  · intro c member
    have slashes := List.all_eq_true.mp (List.all_takeWhile (p := (· == '/'))) c
      (List.mem_reverse.mp member)
    simpa using slashes
  · intro slash
    have first : (base.toList.reverse.dropWhile (· == '/')).head? = some '/' := by
      simpa [Client.make] using slash
    have other := List.head?_dropWhile_not (· == '/') base.toList.reverse
    rw [first] at other
    simp at other

namespace Flight

variable [Scalar τ] {f : Flight τ}

theorem cancelled_eq {arrived : Bool} (reading : f.stage = .reading ↔ arrived = true) (now : τ) :
    f.fail now .cancelled =
      .ended (f.metricOf now { outcome := .error .cancelled, arrived }) (.error .cancelled) := by
  rw [Flight.fail, metricOf_error reading]

end Flight

theorem metricName_of_named {given : String} (some_ : given ≠ "") (path : String) :
    Client.metricName path (some given) = given := by
  simp [Client.metricName, some_]

theorem metricName_of_unnamed {name : Option String} (unnamed : name = none ∨ name = some "")
    (path : String) : Client.metricName path name = path := by
  rcases unnamed with rfl | rfl <;> simp [Client.metricName]

theorem received_receive {t : Transport τ} {number : Nat} (known : number < t.sessions.length)
    (request : Request) : Received t number request (t.receive number request).2 := by
  have replaced (f : Session τ → Session τ) :
      t.sessions.modify number f = t.sessions.set number (f t.sessions[number]) := by
    have set_ := modify_set_self f t.sessions number t.sessions[number]
    rwa [List.set_getElem_self] at set_
  refine ⟨t.sessions[number], List.getElem?_eq_getElem known, ?_⟩
  simp only [Transport.receive, Transport.change, replaced]

theorem eq_of_enter {c client : Client τ} {t : Transport τ} (entered : (c.enter t).1 = .ok client) :
    client = { c with session := client.session } := by
  unfold Client.enter at entered
  split at entered
  · cases entered
    rfl
  · cases entered

theorem length_waits_le [Scalar τ] (timeout : τ) (reply : Reply τ) :
    (reply.waits timeout).length ≤ 2 := by
  -- A body takes one wait at most, and the response or its timeout another.
  have body : reply.bodyWaits.length ≤ 1 := by
    unfold Reply.bodyWaits
    split
    · exact Nat.zero_le 1
    · cases reply.readDelay <;> simp
  unfold Reply.waits
  split
  · omega
  · split
    · simp
    · rw [List.length_cons]
      omega

end Http

end Volley
