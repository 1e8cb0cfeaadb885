import Volley.Run.Iteration

/-!
# Virtual users

A virtual user opens a client of its own and runs one iteration after another: as long as the stop
flag is down it claims the next iteration number, until all are taken. It records how every
iteration ended. An ordinary fault ends the iteration only; any other ends the virtual user. On its
way out, whatever the reason, it closes its client; a fault of closing replaces the reason.

## Main definitions

- `Run.VirtualUser`, `Run.VirtualUser.Stage`.
- `Run.VirtualUser.work`: one step of a virtual user.
-/

namespace Volley

namespace Run

open Http Pool

/-- What a virtual user is about. -/
inductive VirtualUser.Stage (τ β : Type) where
  | outside
  | between (client : Client τ)
  | inside (client : Client τ) (iteration : Nat) (stage : Iteration.Stage τ β)
  | gone

/-- A virtual user. -/
structure VirtualUser (τ β : Type) where
  vu : Nat
  stage : VirtualUser.Stage τ β := .outside

namespace VirtualUser

variable {τ β : Type}

abbrev UserTurn (τ β : Type) := Turn τ (World τ) (VirtualUser τ β)

def leave (user : VirtualUser τ β) (w : World τ) (client : Client τ) (outcome : Outcome) :
    UserTurn τ β :=
  let (closed, transport) := client.exit w.transport
  -- The session is closed now even if closing it failed.
  let left := { w with transport }.record (.closed user.vu (client.session.getD 0))
  { world := left
    state := { user with stage := .gone }
    pause := match closed with
      | .ok _ => .finish outcome
      | .error fault => .finish (.failed fault) }

def enter (plan : Plan τ) (w : World τ) (user : VirtualUser τ β) : UserTurn τ β :=
  let client := Client.make "" plan.headers user.vu plan.requestTimeout
  match client.enter w.transport with
  | (.error fault, transport) =>
    { world := { w with transport }, state := { user with stage := .gone },
      pause := .finish (.failed fault) }
  | (.ok opened, transport) =>
    { world := { w with transport }.record (.opened user.vu (opened.session.getD 0))
      state := { user with stage := .between opened }
      pause := .goOn }

def claim (plan : Plan τ) (body : Body τ β) (g : Glance τ) (w : World τ) (user : VirtualUser τ β)
    (client : Client τ) : UserTurn τ β :=
  -- A number is claimed only after a look at the flag, so that none is lost when the run stops.
  if g.stop then user.leave w client .returned
  else match w.claim plan.options.iterations with
    | none => user.leave w client .returned
    | some (iteration, claimed) =>
      { world := claimed.record (.began user.vu iteration)
        state :=
          { user with
            stage := .inside client iteration (.cued (body.start user.vu iteration) .began) }
        pause := .goOn }

/-- Records the end of an iteration: the user goes on after a return or an ordinary fault, and
leaves after any other fault. -/
def conclude (g : Glance τ) (w : World τ) (user : VirtualUser τ β) (client : Client τ)
    (iteration : Nat) (fault : Option Fault) : UserTurn τ β :=
  let ended := w.record (.ended user.vu iteration g.now fault)
  match fault with
  | none =>
    -- Only iterations that end by themselves are counted, not those that are cancelled.
    { world := { ended with collector := ended.collector.recordIteration none }
      state := { user with stage := .between client }
      pause := .goOn }
  | some f =>
    if f.isOrdinary then
      { world := { ended with collector := ended.collector.recordIteration (some f) }.log
          (.iterationFailed iteration user.vu)
        state := { user with stage := .between client }
        pause := .goOn }
    else user.leave ended client (.failed f)

def work [Scalar τ] (plan : Plan τ) (body : Body τ β) (g : Glance τ) (w : World τ)
    (user : VirtualUser τ β) (wake : Wake) : UserTurn τ β :=
  match user.stage with
  | .outside =>
    match wake with
    | .dismissed =>
      -- A user that is dismissed before its first turn has no client to close.
      { world := w, state := { user with stage := .gone }, pause := .finish (.failed .cancelled) }
    | .elapsed => enter plan w user
  | .between client =>
    match wake with
    | .dismissed => user.leave w client (.failed .cancelled)
    | .elapsed => claim plan body g w user client
  | .inside client iteration stage =>
    let effect := Iteration.step body client iteration g w stage wake
    match effect.next with
    | .going next pause =>
      { world := effect.world
        state := { user with stage := .inside client iteration next }
        stop := effect.stop
        interrupt := effect.interrupt
        pause }
    | .ended fault => conclude g effect.world user client iteration fault
  | .gone => { world := w, state := user, pause := .finish .returned }

end VirtualUser

end Run

end Volley
