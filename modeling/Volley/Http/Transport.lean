import Volley.Assoc
import Volley.Fault
import Volley.Scalar

/-!
# The transport

Clients send their requests through a transport. It answers them from a list of replies, one after
another and from the front again after the last, whoever sends them, and keeps a record of every
session: its timeout, whether it is closed, and the requests that it carried.

## Main definitions

- `Http.Reply`: how the transport behaves on one request.
- `Http.Transport`: replies, planned faults and the record of sessions.
- `Http.Transport.connect`, `Http.Transport.close`, `Http.Transport.receive`.
-/

namespace Volley

/-- Header fields in order; names are told apart by case. -/
abbrev Headers := Assoc String String

namespace Http

/-- A request as the transport receives it. -/
structure Request where
  method : String
  url : String
  headers : Headers
  deriving DecidableEq, Repr

/-- A response whose body has been read. -/
structure Response where
  status : Int
  body : String
  deriving DecidableEq, Repr

/-- How the transport behaves on a request: how long until it responds, whether it fails instead,
how long the body takes and whether reading it fails. -/
structure Reply (τ : Type) where
  status : Int := 200
  body : String := ""
  delay : Option τ := none
  fault : Option Fault := none
  readDelay : Option τ := none
  readFault : Option Fault := none

/-- The record of a session. -/
structure Session (τ : Type) where
  timeout : τ
  closed : Bool := false
  requests : List Request := []

/-- The faults that strike sessions, by the numbers of these. -/
def FaultPlan := Nat → Option Fault

namespace FaultPlan

/-- Strikes one session, or none. -/
def single (strike : Option (Nat × Fault)) : FaultPlan :=
  fun session => strike.bind fun (n, fault) => if n = session then some fault else none

instance : Coe (Option (Nat × Fault)) FaultPlan := ⟨single⟩

end FaultPlan

/-- A transport. Sessions are numbered from zero in order of their creation; whether opening or
closing one of them fails is planned for each. -/
structure Transport (τ : Type) where
  replies : List (Reply τ) := []
  connectFault : FaultPlan := fun _ => none
  closeFault : FaultPlan := fun _ => none
  served : Nat := 0
  sessions : List (Session τ) := []

namespace Transport

variable {τ : Type}

def planned (plan : FaultPlan) (session : Nat) : Option Fault :=
  (plan session).map Fault.leaving

/-- Creates a session and gives its number. A session whose creation fails is on record too. -/
def connect (t : Transport τ) (timeout : τ) : Except Fault Nat × Transport τ :=
  let number := t.sessions.length
  let opened := { t with sessions := t.sessions ++ [{ timeout }] }
  -- The number is taken also if opening fails, so no other session gets it.
  match planned t.connectFault number with
  | some fault => (.error fault, opened)
  | none => (.ok number, opened)

def change (t : Transport τ) (session : Nat) (f : Session τ → Session τ) : Transport τ :=
  { t with sessions := t.sessions.modify session f }

/-- Closes a session. It is closed also when closing it fails. -/
def close (t : Transport τ) (session : Nat) : Option Fault × Transport τ :=
  (planned t.closeFault session, t.change session fun s => { s with closed := true })

def nextReply (t : Transport τ) : Reply τ :=
  -- Without any replies every request is answered like this.
  (t.replies[t.served % t.replies.length]?).getD {}

/-- Receives a request on a session and gives the reply to it. -/
def receive (t : Transport τ) (session : Nat) (request : Request) : Reply τ × Transport τ :=
  let received := t.change session fun s => { s with requests := s.requests ++ [request] }
  (t.nextReply, { received with served := t.served + 1 })

end Transport

end Http

end Volley
