import Volley.Run.Iteration

/-!
# A single iteration by itself

An iteration outside any run: a client is opened, the body runs once, the client is closed.

## Main definitions

- `Run.Solo.perform`: runs one iteration and tells what it recorded and how it ended.
-/

namespace Volley

namespace Run

namespace Solo

open Http Pool

/-- What the one worker is about. -/
inductive Stage (τ β : Type) where
  | outside (client : Client τ)
  | inside (client : Client τ) (stage : Iteration.Stage τ β)
  | gone

/-- The one who waits for it. -/
inductive Host (τ β : Type) where
  | inviting (client : Client τ)
  | joining

/-- What came of a single iteration. -/
structure Result (τ : Type) where
  world : World τ
  time : τ
  fault : Option Fault

variable {τ β : Type}

def leave (w : World τ) (client : Client τ) (fault : Option Fault) :
    Turn τ (World τ) (Stage τ β) :=
  let (closed, transport) := client.exit w.transport
  -- A fault of closing takes the place of the one of the body.
  let last := match closed with
    | .ok _ => fault
    | .error f => some f
  { world := { w with transport }
    state := .gone
    pause := .finish (match last with
      | none => .returned
      | some f => .failed f) }

def work [Scalar τ] (body : Body τ β) (iteration : Int) (g : Glance τ) (w : World τ)
    (stage : Stage τ β) (wake : Wake) : Turn τ (World τ) (Stage τ β) :=
  match stage with
  | .outside client =>
    match client.enter w.transport with
    | (.error fault, transport) =>
      { world := { w with transport }, state := .gone, pause := .finish (.failed fault) }
    | (.ok opened, transport) =>
      { world := { w with transport }
        state := .inside opened (.cued (body.start client.vu iteration) .began)
        pause := .goOn }
  | .inside client inner =>
    let effect := Iteration.step body client iteration g w inner wake
    match effect.next with
    | .going next pause =>
      { world := effect.world, state := .inside client next, stop := effect.stop,
        interrupt := effect.interrupt, pause }
    | .ended fault => leave effect.world client fault
  | .gone => { world := w, state := stage, pause := .finish .returned }

def supervise (_ : Glance τ) (w : World τ) (host : Host τ β) :
    Command τ (World τ) (Host τ β) (Stage τ β) :=
  match host with
  | .inviting client =>
    { world := w, state := .joining, hire := [.outside client], order := .wait [0] none }
  | .joining => { world := w, state := .joining, order := .finish }

def system [Scalar τ] (body : Body τ β) (iteration : Int) :
    System τ (World τ) (Host τ β) (Stage τ β) where
  work := work body iteration
  supervise := supervise
  interrupted _ w := w.signalled

def perform [Scalar τ] (body : Body τ β) (client : Client τ) (iteration : Int)
    (transport : Transport τ) (now : τ) (budget : Nat) : Result τ :=
  let start : State τ (World τ) (Host τ β) (Stage τ β) :=
    { now, supervisor := .inviting client, world := { transport } }
  let ended := conduct (system body iteration) budget start
  { world := ended.world
    time := ended.now
    fault := match ended.glance.outcome? 0 with
      | some (.failed f) => some f
      | _ => none }

end Solo

end Run

end Volley
