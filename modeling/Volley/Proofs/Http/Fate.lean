import Volley.Http.Client
import Volley.Metric.Collector

/-!
# The fate of a request

The reply to a request and the timeout of its client settle what becomes of it: it fails before
there is a response, or there is one whose body cannot be read, or the body is read. That is its
fate from the moment it is sent, however long it takes and whatever else goes on.

## Main definitions

- `Http.Fate`, `Http.Reply.fate`: what a reply makes of a request.
- `Http.Flight.fate`: what becomes of a request under way.
- `Http.Fate.Ends`: a metric and an outcome that a request of this fate ends with.

## Main results

- `bears_advance`: a request meets its fate.
-/

namespace Volley

namespace Http

variable {τ : Type}

/-- What becomes of a request. -/
inductive Fate where
  | failed
  | unread
  | read (status : Int)
  deriving DecidableEq, Repr

namespace Fate

def isRead : Fate → Bool
  | .read _ => true
  | _ => false

/-- A request of this fate ends with this metric and this outcome. A fault is an ordinary one, and
the metric tells a request that failed before there was a response from any other. -/
inductive Ends : Fate → Metric τ → Except Fault Response → Prop
  | failed {metric : Metric τ} {fault : Fault} (error : Collector.isRequestError metric = true)
      (ordinary : fault.isOrdinary = true) : Ends .failed metric (.error fault)
  | unread {metric : Metric τ} {fault : Fault} (responded : Collector.isRequestError metric = false)
      (ordinary : fault.isOrdinary = true) : Ends .unread metric (.error fault)
  | read {metric : Metric τ} (response : Response)
      (responded : Collector.isRequestError metric = false) :
      Ends (.read response.status) metric (.ok response)

end Fate

namespace Reply

/-- A reply has a status, and the faults that it plans are ordinary. -/
structure Ordinary (reply : Reply τ) : Prop where
  status : reply.status ≠ 0
  fault : reply.fault.all Fault.isOrdinary = true
  readFault : reply.readFault.all Fault.isOrdinary = true

/-- What becomes of a request whose body arrives. -/
def onReading (reply : Reply τ) : Fate :=
  match reply.readFault with
  | some _ => .unread
  | none => .read reply.status

/-- What becomes of a request whose response is due. -/
def onResponse (reply : Reply τ) : Fate :=
  match reply.fault with
  | some _ => .failed
  | none => reply.onReading

/-- What becomes of a request with this timeout. -/
def fate [Scalar τ] (timeout : τ) (reply : Reply τ) : Fate :=
  match reply.delay with
  | some delay => if 0 < timeout ∧ timeout < delay then .failed else reply.onResponse
  | none => reply.onResponse

end Reply

/-- The reply to a request of which so many came before. -/
def replyTo (replies : List (Reply τ)) (served : Nat) : Reply τ :=
  (replies[served % replies.length]?).getD {}

theorem ordinary_replyTo {replies : List (Reply τ)} (ordinary : ∀ reply ∈ replies, reply.Ordinary)
    (served : Nat) : (replyTo replies served).Ordinary := by
  unfold replyTo
  cases found : replies[served % replies.length]? with
  -- Where no reply is planned there is one with status 200, which is ordinary.
  | none => exact ⟨fun zero => absurd zero (show (200 : Int) ≠ 0 by decide), rfl, rfl⟩
  | some reply => exact ordinary reply (List.mem_of_getElem? found)

namespace Flight

variable [Scalar τ] {f : Flight τ}

def fate (f : Flight τ) : Fate :=
  match f.stage with
  | .sent => f.reply.fate f.timeout
  | .expiring => .failed
  | .responding => f.reply.onResponse
  | .reading => f.reply.onReading

/-- A request goes on towards its fate, or meets it. -/
def Bears (f : Flight τ) : Progress τ → Prop
  | .waiting _ later => later.fate = f.fate ∧ later.name = f.name ∧ later.reply = f.reply
  | .ended metric outcome => metric.name = f.name ∧ f.fate.Ends metric outcome

/-- A request that fails before there is a response. -/
theorem bears_fail (early : f.stage ≠ .reading) (fails : f.fate = .failed) (now : τ) {fault : Fault}
    (ordinary : fault.isOrdinary = true) : f.Bears (f.fail now fault) := by
  have statusless : f.statusSoFar = 0 := by
    unfold statusSoFar
    split
    next reading => exact absurd reading early
    next => rfl
  refine ⟨rfl, ?_⟩
  rw [fails]
  exact .failed (by simp [Collector.isRequestError, measure, statusless]) ordinary

/-- A response that has arrived is read, or cannot be. -/
theorem bears_read (ordinary : f.reply.Ordinary) (reading : f.stage = .reading) (now : τ) :
    f.Bears (f.read now) := by
  have fate : f.fate = f.reply.onReading := by rw [Flight.fate, reading]
  unfold Flight.read
  cases broken : f.reply.readFault with
  | some fault =>
    have plain : fault.isOrdinary = true := by simpa [broken] using ordinary.readFault
    refine ⟨rfl, ?_⟩
    rw [fate, Reply.onReading, broken]
    -- The status of the response is in the metric, and it is not zero.
    exact .unread (by simp [Collector.isRequestError, measure, statusSoFar, reading,
      ordinary.status]) (Fault.isOrdinary_leaving plain)
  | none =>
    refine ⟨rfl, ?_⟩
    rw [fate, Reply.onReading, broken]
    exact .read ⟨f.reply.status, f.reply.body⟩ rfl

theorem bears_respond (ordinary : f.reply.Ordinary) (early : f.stage ≠ .reading)
    (fate : f.fate = f.reply.onResponse) (now : τ) : f.Bears (f.respond now) := by
  unfold Flight.respond
  cases broken : f.reply.fault with
  | some fault =>
    have plain : fault.isOrdinary = true := by simpa [broken] using ordinary.fault
    have fails : f.fate = .failed := by rw [fate, Reply.onResponse, broken]
    exact bears_fail early fails now (Fault.isOrdinary_leaving plain)
  | none =>
    -- Waiting for the body does not change the fate.
    have later : ({ f with stage := .reading } : Flight τ).fate = f.fate := by
      rw [fate, Reply.onResponse, broken]
      rfl
    dsimp only
    split
    · exact ⟨later, rfl, rfl⟩
    · have bears := bears_read (f := { f with stage := .reading }) ordinary rfl now
      unfold Bears at bears ⊢
      rw [later] at bears
      exact bears

theorem bears_advance (ordinary : f.reply.Ordinary) (now : τ) : f.Bears (f.advance now) := by
  cases stage : f.stage with
  | sent =>
    have early : f.stage ≠ .reading := by simp [stage]
    have fate : f.fate = f.reply.fate f.timeout := by rw [Flight.fate, stage]
    simp only [Flight.advance, stage, Flight.launch]
    cases delay : f.reply.delay with
    | none => exact bears_respond ordinary early (by rw [fate, Reply.fate, delay]) now
    | some delay =>
      rw [Reply.fate, delay] at fate
      dsimp only at fate ⊢
      -- The timeout is measured against the delay when the request is sent.
      split
      next expires =>
        rw [if_pos expires] at fate
        exact ⟨fate.symm, rfl, rfl⟩
      next responds =>
        rw [if_neg responds] at fate
        exact ⟨fate.symm, rfl, rfl⟩
  | expiring =>
    simp only [Flight.advance, stage]
    exact bears_fail (by simp [stage]) (by rw [Flight.fate, stage]) now rfl
  | responding =>
    simp only [Flight.advance, stage]
    exact bears_respond ordinary (by simp [stage]) (by rw [Flight.fate, stage]) now
  | reading =>
    simp only [Flight.advance, stage]
    exact bears_read ordinary stage now

end Flight

end Http

end Volley
