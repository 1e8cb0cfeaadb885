import Volley.Proofs.Pool.Image
import Volley.Proofs.Run.Course
import Volley.Scenario.Routine

/-!
# Sessions of mirrored bodies

A body mirrors another one if its states are images of the other's and it answers every cue in the
same way. A session cannot tell the two apart: whoever runs the mirrored body, under whatever name,
goes through the images of the same states, and all that differs is the name of the scenario, in the
first remark on a run and in its result.

## Main definitions

- `Body.Mirrors`: a body that answers like another one.
- `World.renamed`, `Report.renamed`: what a session shows, under another name.
- `Run.translation`: the maps between the pools of two sessions.

## Main results

- `work_mirrored`: a turn of a virtual user.
- `supervise_renamed`: a turn of the director.
- `respects_of_mirrors`: the pools of the two sessions do the same.
- `perform_mirrored`: so do the sessions, when they are carried out.
-/

namespace Volley

/-- A body whose states are images and which answers every cue in the same way. -/
structure Body.Mirrors {τ β γ : Type} (f : β → γ) (body : Body τ β) (mirrored : Body τ γ) :
    Prop where
  start : ∀ vu iteration, mirrored.start vu iteration = f (body.start vu iteration)
  respond : ∀ s cue, mirrored.respond (f s) cue = Routine.lift f (body.respond s cue)

namespace Journal

/-- A remark on a scenario of another name. -/
def Entry.renamed {τ : Type} (name : String) : Entry τ → Entry τ
  | .starting _ vus iterations maxDuration => .starting name vus iterations maxDuration
  | entry => entry

end Journal

namespace Run

open Http Pool

variable {τ β γ : Type}

/-! ### What a session shows, under another name -/

def Event.renamed (name : String) : Event τ → Event τ
  | .logged entry => .logged (entry.renamed name)
  | event => event

def World.renamed (name : String) (w : World τ) : World τ :=
  { w with history := w.history.map (Event.renamed name) }

def Ending.renamed (name : String) : Ending τ → Ending τ
  | .result r => .result { r with scenarioName := name }
  | ending => ending

def Report.renamed (name : String) (r : Report τ) : Report τ :=
  { r with ending := r.ending.renamed name }

def Director.renamed (name : String) (d : Director τ) : Director τ :=
  { d with reports := d.reports.map (Report.renamed name) }

namespace World

variable (name : String) (w : World τ)

@[simp] theorem transport_renamed : (w.renamed name).transport = w.transport :=
  rfl

theorem record_renamed (event : Event τ) :
    (w.renamed name).record (event.renamed name) = (w.record event).renamed name :=
  rfl

theorem record_foldl_renamed {ι : Type} (event : ι → Event τ)
    (same : ∀ i, (event i).renamed name = event i) (xs : List ι) :
    xs.foldl (fun w i => w.record (event i)) (w.renamed name) =
      (xs.foldl (fun w i => w.record (event i)) w).renamed name := by
  induction xs generalizing w with
  | nil => rfl
  | cons i rest ih =>
    -- Only remarks on a start have the name, so these events are their own images.
    have recorded := w.record_renamed name (event i)
    rw [same] at recorded
    rw [List.foldl_cons, List.foldl_cons, recorded, ih]

theorem note_renamed (vu : Int) (time : τ) (notes : List Note) :
    (w.renamed name).note vu time notes = (w.note vu time notes).renamed name :=
  w.record_foldl_renamed name (fun note => .noted vu time note) (fun _ => rfl) notes

theorem changeHandlers_renamed (installed : Bool) :
    (w.renamed name).changeHandlers installed = (w.changeHandlers installed).renamed name :=
  record_foldl_renamed name { w with handling := installed } _ (fun _ => rfl) signals

theorem claim_renamed (iterations : Nat) :
    (w.renamed name).claim iterations =
      (w.claim iterations).map fun claimed => (claimed.1, claimed.2.renamed name) := by
  have claimed : (w.renamed name).claimed = w.claimed := rfl
  unfold claim
  rw [claimed]
  split <;> rfl

theorem requestStop_renamed :
    (w.renamed name).requestStop = (w.requestStop.1, w.requestStop.2.renamed name) := by
  have lifecycle : (w.renamed name).lifecycle = w.lifecycle := rfl
  unfold requestStop
  rw [lifecycle]
  split <;> rfl

end World

/-! ### One iteration -/

namespace Iteration

def Stage.map (f : β → γ) : Stage τ β → Stage τ γ
  | .cued state cue => .cued (f state) cue
  | .resting state => .resting (f state)
  | .requesting state flight => .requesting (f state) flight

def Next.map (f : β → γ) : Next τ β → Next τ γ
  | .going stage pause => .going (stage.map f) pause
  | .ended fault => .ended fault

/-- An effect on the session of another name and body. -/
def Effect.image (name : String) (f : β → γ) (e : Effect τ β) : Effect τ γ :=
  { world := e.world.renamed name, stop := e.stop, interrupt := e.interrupt, next := e.next.map f }

variable (name : String) (f : β → γ) (w : World τ)

theorem follow_image (state : β) (progress : Progress τ) :
    follow (w.renamed name) (f state) progress = (follow w state progress).image name f := by
  cases progress with
  | waiting delay flight => rfl
  | ended metric outcome => cases outcome <;> rfl

theorem recordChecks_renamed (report : Checks.Report) :
    recordChecks (w.renamed name) report = (recordChecks w report).renamed name := by
  have remarked := w.record_foldl_renamed name (fun label => .logged (.checkRaised label))
    (fun _ => rfl) report.raised
  -- First the remarks on checks that raised, then the results one by one.
  unfold recordChecks
  simp only [World.log, remarked]
  generalize report.raised.foldl (fun w label => w.record (.logged (.checkRaised label))) w = v
  induction report.delivered generalizing v with
  | nil => rfl
  | cons result rest ih =>
    exact ih ({ v with collector := v.collector.recordCheck result }.record (.checked result))

theorem perform_image [Scalar τ] (client : Client τ) (iteration : Int) (g : Glance τ) (state : β)
    (move : Move τ) :
    perform client iteration g (w.renamed name) (f state) move =
      (perform client iteration g w state move).image name f := by
  cases move with
  -- These moves leave the world alone, or note nothing that has a name.
  | finish | fail | sleep | hang | look | signal => rfl
  | get path headers label =>
    simp only [perform, World.transport_renamed]
    -- A client sees the transport only, which has no name in it.
    rcases client.send w.transport g.now path headers label with ⟨_ | flight, transport⟩
    · rfl
    · exact follow_image name f
        ({ w with transport }.record (.requested client.vu (client.session.getD 0))) state
        (flight.advance g.now)
  | check subject checks =>
    simp only [perform, recordChecks_renamed]
    cases (Checks.evaluate Checks.receiveAll subject client.vu iteration checks).outcome <;> rfl
  | stop =>
    simp only [perform, World.requestStop_renamed]
    rfl

theorem step_image [Scalar τ] {f : β → γ} {body : Body τ β} {mirrored : Body τ γ}
    (mirrors : body.Mirrors f mirrored) (client : Client τ) (iteration : Int) (g : Glance τ)
    (stage : Stage τ β) (wake : Wake) :
    step mirrored client iteration g (w.renamed name) (stage.map f) wake =
      (step body client iteration g w stage wake).image name f := by
  cases stage with
  | cued state cue =>
    -- The only stage in which the body is asked.
    simp only [Stage.map, step, mirrors.respond, Routine.lift, World.note_renamed]
    exact perform_image name f _ client iteration g _ _
  | resting state => cases wake <;> rfl
  | requesting state flight =>
    cases wake with
    | elapsed => exact follow_image name f w state (flight.advance g.now)
    | dismissed => exact follow_image name f w state (flight.fail g.now .cancelled)

end Iteration

/-! ### Virtual users -/

namespace VirtualUser

def Stage.map (f : β → γ) : Stage τ β → Stage τ γ
  | .outside => .outside
  | .between client => .between client
  | .inside client iteration stage => .inside client iteration (stage.map f)
  | .gone => .gone

def map (f : β → γ) (user : VirtualUser τ β) : VirtualUser τ γ :=
  { vu := user.vu, stage := user.stage.map f }

end VirtualUser

/-- From a session to the session of another name and body. -/
def translation (name : String) (f : β → γ) :
    Translation (World τ) (Director τ) (VirtualUser τ β)
      (World τ) (Director τ) (VirtualUser τ γ) where
  world := World.renamed name
  supervisor := Director.renamed name
  worker := VirtualUser.map f

def Plan.renamed (name : String) (plan : Plan τ) : Plan τ :=
  { plan with scenario := name }

@[simp] theorem Plan.options_renamed (name : String) (plan : Plan τ) :
    (plan.renamed name).options = plan.options :=
  rfl

@[simp] theorem Plan.handlesSignals_renamed (name : String) (plan : Plan τ) :
    (plan.renamed name).handlesSignals = plan.handlesSignals :=
  rfl

section Users

variable (name : String) (f : β → γ) (plan : Plan τ) (w : World τ) (user : VirtualUser τ β)

theorem leave_image (client : Client τ) (outcome : Outcome) :
    (user.map f).leave (w.renamed name) client outcome =
      (translation name f).turn (user.leave w client outcome) := by
  simp only [VirtualUser.leave, World.transport_renamed]
  rcases client.exit w.transport with ⟨_ | _, _⟩ <;> rfl

theorem enter_image :
    VirtualUser.enter (plan.renamed name) (w.renamed name) (user.map f) =
      (translation name f).turn (VirtualUser.enter plan w user) := by
  simp only [VirtualUser.enter, VirtualUser.map, Plan.renamed, World.renamed]
  -- Entering opens a session or fails to, and the client is made of the plan, which has the
  -- headers.
  rcases (Client.make "" plan.headers user.vu plan.requestTimeout).enter w.transport with
    ⟨_ | _, _⟩ <;> rfl

theorem claim_image {body : Body τ β} {mirrored : Body τ γ} (mirrors : body.Mirrors f mirrored)
    (g : Glance τ) (client : Client τ) :
    VirtualUser.claim (plan.renamed name) mirrored g (w.renamed name) (user.map f) client =
      (translation name f).turn (VirtualUser.claim plan body g w user client) := by
  simp only [VirtualUser.claim, leave_image, World.claim_renamed, Plan.options_renamed,
    mirrors.start]
  split
  · rfl
  · cases w.claim plan.options.iterations <;> rfl

theorem conclude_image (g : Glance τ) (client : Client τ) (iteration : Nat) (fault : Option Fault) :
    (user.map f).conclude g (w.renamed name) client iteration fault =
      (translation name f).turn (user.conclude g w client iteration fault) := by
  cases fault with
  | none => rfl
  | some fault =>
    have left := leave_image name f (w.record (.ended user.vu iteration g.now (some fault))) user
      client (.failed fault)
    simp only [VirtualUser.conclude]
    split
    · rfl
    · exact left

theorem work_mirrored [Scalar τ] {body : Body τ β} {mirrored : Body τ γ}
    (mirrors : body.Mirrors f mirrored) (g : Glance τ) (wake : Wake) :
    VirtualUser.work (plan.renamed name) mirrored g (w.renamed name) (user.map f) wake =
      (translation name f).turn (VirtualUser.work plan body g w user wake) := by
  obtain ⟨vu, stage⟩ := user
  -- By the stage of the user, in the order of its definition.
  cases stage with
  | outside =>
    cases wake with
    | dismissed => rfl
    | elapsed => exact enter_image name f plan w ⟨vu, .outside⟩
  | between client =>
    cases wake with
    | dismissed => exact leave_image name f w ⟨vu, .between client⟩ client (.failed .cancelled)
    | elapsed => exact claim_image name f plan w ⟨vu, .between client⟩ mirrors g client
  | inside client iteration stage =>
    -- The turn follows what the iteration comes to, which is the same one for both.
    have stepped := Iteration.step_image name w mirrors client iteration g stage wake
    simp only [VirtualUser.work, VirtualUser.map, VirtualUser.Stage.map, stepped]
    generalize Iteration.step body client iteration g w stage wake = effect
    obtain ⟨world, stop, interrupt, next⟩ := effect
    cases next with
    | going next pause => rfl
    | ended fault =>
      exact conclude_image name f world ⟨vu, .inside client iteration stage⟩ g client iteration
        fault
  | gone => rfl

end Users

/-! ### The director -/

section Directors

variable (name : String) (f : β → γ) (plan : Plan τ) (d : Director τ) (g : Glance τ) (w : World τ)

theorem removeHandlers_renamed :
    Director.removeHandlers (plan.renamed name) (w.renamed name) =
      (Director.removeHandlers plan w).renamed name := by
  unfold Director.removeHandlers
  rw [Plan.handlesSignals_renamed, World.changeHandlers_renamed]
  split <;> rfl

theorem begin_image :
    (d.renamed name).begin (plan.renamed name) g (w.renamed name) =
      (translation name f).command (d.begin plan g w) := by
  have handles := plan.handlesSignals_renamed name
  have options := plan.options_renamed name
  -- The users are hired for the other body, all of them outside.
  have hired (n : Nat) : (List.range n).map (fun vu => ({ vu } : VirtualUser τ γ)) =
      ((List.range n).map fun vu => ({ vu } : VirtualUser τ β)).map (VirtualUser.map f) := by
    rw [List.map_map]
    rfl
  simp only [Director.begin, handles, options, hired]
  split <;> split <;> rfl

theorem complete_image [Scalar τ] (start : τ) :
    (d.renamed name).complete (plan.renamed name) g (w.renamed name) start =
      (translation name f).command (d.complete plan g w start) := by
  simp only [Director.complete, removeHandlers_renamed]
  rfl

theorem shutDown_image (stop : Bool) (progress : Shutdown.Progress τ)
    (phase : Shutdown.Stage → Phase τ) (afterwards : World τ → Director.RunCommand τ β)
    (renamed : World τ → Director.RunCommand τ γ)
    (same : ∀ w, renamed (w.renamed name) = (translation name f).command (afterwards w)) :
    (d.renamed name).shutDown g (w.renamed name) stop progress phase renamed =
      (translation name f).command (d.shutDown g w stop progress phase afterwards) := by
  cases progress with
  | waiting dismiss crew limit stage =>
    have recorded := w.record_foldl_renamed name (fun worker => .dismissed worker g.now)
      (fun _ => rfl) dismiss
    simp only [Director.shutDown, recorded]
    rfl
  | ended dismissed =>
    -- What follows a shutdown is a command of its own, to which the stop is added.
    have after : renamed ((w.renamed name).log (.usersShutDown dismissed)) =
        (translation name f).command (afterwards (w.log (.usersShutDown dismissed))) :=
      same (w.log (.usersShutDown dismissed))
    simp only [Director.shutDown]
    exact congrArg (fun c : Director.RunCommand τ γ => { c with stop := c.stop || stop }) after

theorem failWith_image (stop : Bool) (cause : Fault) (progress : Shutdown.Progress τ) :
    (d.renamed name).failWith (plan.renamed name) g (w.renamed name) stop cause progress =
      (translation name f).command (d.failWith plan g w stop cause progress) := by
  refine shutDown_image name f d g w stop progress _ _ _ fun v => ?_
  rw [removeHandlers_renamed]
  rfl

theorem conclude_renamed [Scalar τ] (start : τ) (failure : Option Fault) :
    (d.renamed name).conclude (plan.renamed name) g (w.renamed name) start failure =
      (translation name f).command (d.conclude plan g w start failure) := by
  cases failure with
  | none => exact complete_image name f plan d g w start
  | some fault =>
    simp only [Director.conclude]
    split
    · exact failWith_image name f plan d g ({ w with lifecycle := .failed }.log .runFailed) true
        fault (Shutdown.begin (g.pending w.crew) Shutdown.grace)
    · rw [removeHandlers_renamed]
      rfl

theorem drain_image [Scalar τ] (stop : Bool) (start : τ) (failure : Option Fault)
    (progress : Shutdown.Progress τ) :
    (d.renamed name).drain (plan.renamed name) g (w.renamed name) stop start failure progress =
      (translation name f).command (d.drain plan g w stop start failure progress) :=
  shutDown_image name f d g w stop progress _ _ _ fun v =>
    conclude_renamed name f plan d g v start failure

theorem waited_image [Scalar τ] (start : τ) :
    (d.renamed name).waited (plan.renamed name) g (w.renamed name) start =
      (translation name f).command (d.waited plan g w start) := by
  have crew : (w.renamed name).crew = w.crew := rfl
  simp only [Director.waited, crew]
  split
  · exact conclude_renamed name f plan d g w start _
  · -- The number of those that were not claimed goes into the remark.
    let unclaimed : Int := (plan.options.iterations : Int) - (w.claimed : Int)
    exact drain_image name f plan d g
      { w.log (.durationReached plan.options.maxDuration unclaimed) with lifecycle := .stopping }
      true start (Director.firstFailure g w.crew)
      (Shutdown.begin (g.pending w.crew) Shutdown.grace)

theorem supervise_renamed [Scalar τ] :
    Director.supervise (plan.renamed name) g (w.renamed name) (d.renamed name) =
      (translation name f).command (Director.supervise plan g w d) := by
  -- By what the director is at.
  obtain ⟨tasks, phase, reports⟩ := d
  cases phase with
  | watching start => exact waited_image name f plan _ g w start
  | draining start failure stage =>
    exact drain_image name f plan _ g w false start failure (Shutdown.resume g stage)
  | failing cause stage =>
    exact failWith_image name f plan _ g w false cause (Shutdown.resume g stage)
  | idle =>
    -- The name shows only in a run that begins; to stop or to look is the same for both.
    rcases tasks with _ | ⟨_ | _ | _, rest⟩
    · rfl
    · exact begin_image name f plan { tasks := rest, reports } g w
    · simp only [Director.supervise, Director.renamed, World.requestStop_renamed]
      rfl
    · rfl

theorem giveUp_renamed :
    Director.giveUp (plan.renamed name) (w.renamed name) (d.renamed name) =
      (Director.giveUp plan w d).renamed name := by
  have phase : (d.renamed name).phase = d.phase := rfl
  unfold Director.giveUp
  rw [phase, removeHandlers_renamed]
  split <;> rfl

end Directors

/-! ### Sessions -/

def Session.renamed (name : String) (s : Session τ) : Session τ :=
  { s with reports := s.reports.map (Report.renamed name), world := s.world.renamed name }

theorem initial_image (name : String) (f : β → γ) (tasks : List Task)
    (transport : Http.Transport τ) (now : τ) :
    (initial tasks transport now : RunState τ γ) =
      (initial tasks transport now : RunState τ β).image (translation name f) :=
  rfl

theorem askToStop_image (name : String) (f : β → γ) (s : RunState τ β) :
    askToStop (s.image (translation name f)) = (askToStop s).image (translation name f) := by
  have stopped : (s.image (translation name f)).world.requestStop =
      (s.world.requestStop.1, s.world.requestStop.2.renamed name) :=
    s.world.requestStop_renamed name
  simp only [askToStop, stopped]
  rw [← State.raiseStop_image_if]
  rfl

section Sessions

variable [Scalar τ] {f : β → γ} {body : Body τ β} {mirrored : Body τ γ} (name : String)
  (plan : Plan τ) (mirrors : body.Mirrors f mirrored)
include mirrors

/-- The pools of the two sessions do the same. -/
theorem respects_of_mirrors :
    (translation name f).Respects (system plan body) (system (plan.renamed name) mirrored) where
  work g w user wake := work_mirrored name f plan w user mirrors g wake
  supervise g w d := supervise_renamed name f plan d g w
  interrupted _ _ := rfl
  giveUp w d := giveUp_renamed name plan d w

/-- A session that is carried out is the same under the other name. -/
theorem perform_mirrored (tasks : List Task) (transport : Http.Transport τ) (now : τ)
    (budget : Nat) :
    perform (plan.renamed name) mirrored tasks transport now budget =
      (perform plan body tasks transport now budget).renamed name := by
  have respects := respects_of_mirrors name plan mirrors
  simp only [perform, initial_image name f, conduct_image respects, windUp_image respects,
    Session.renamed, List.map_reverse]
  rfl

theorem happens_mirrored {s t : RunState τ β} (happens : Happens plan body s t) :
    Happens (plan.renamed name) mirrored (s.image (translation name f))
      (t.image (translation name f)) := by
  cases happens with
  | moved moves => exact .moved (moves_image (respects_of_mirrors name plan mirrors) moves)
  | signalled handled => exact .signalled handled
  | asked =>
    rw [← askToStop_image]
    exact .asked
  | dismissed i =>
    rw [← State.dismiss_image]
    exact .dismissed i
  | givenUp =>
    rw [← State.dismissSupervisor_image]
    exact .givenUp

/-- What a session can come to, it can come to under the other name. -/
theorem reaches_mirrored {s t : RunState τ β} (reaches : Reaches plan body s t) :
    Reaches (plan.renamed name) mirrored (s.image (translation name f))
      (t.image (translation name f)) := by
  induction reaches with
  | refl => exact .refl
  | tail _ happens ih => exact ih.tail (happens_mirrored name plan mirrors happens)

end Sessions

/-! ### What cannot be told apart -/

/-- Two worlds that show the same, the name in the remarks apart. -/
structure World.Alike (name : String) (w v : World τ) : Prop where
  /-- The same requests went out on the same sessions, with the same headers in order. -/
  transport : v.transport = w.transport
  /-- The same requests and checks were recorded in the same order. -/
  collector : v.collector = w.collector
  /-- The same iterations began and ended in the same way. -/
  laps : v.laps = w.laps
  lifecycle : v.lifecycle = w.lifecycle
  claimed : v.claimed = w.claimed
  crew : v.crew = w.crew
  history : v.history = w.history.map (Event.renamed name)

/-- Two sessions that came to the same. -/
structure Session.Alike (name : String) (s t : Session τ) : Prop where
  world : s.world.Alike name t.world
  reports : t.reports = s.reports.map (Report.renamed name)
  time : t.time = s.time
  demand : t.demand = s.demand

/-- Two sessions at work that stand at the same place of the same schedule. -/
structure Abreast (name : String) (s : RunState τ β) (t : RunState τ γ) : Prop where
  world : s.world.Alike name t.world
  reports : t.supervisor.reports = s.supervisor.reports.map (Report.renamed name)
  outcomes : t.glance.outcomes = s.glance.outcomes
  now : t.now = s.now
  stop : t.stop = s.stop
  round : t.round = s.round
  queue : t.queue = s.queue
  timers : t.timers = s.timers

theorem World.alike_renamed (name : String) (w : World τ) : w.Alike name (w.renamed name) where
  transport := rfl
  collector := rfl
  laps := by
    have same (event : Event τ) : (event.renamed name).lap? = event.lap? := by
      cases event <;> rfl
    simp [laps, renamed, List.filterMap_map, same]
  lifecycle := rfl
  claimed := rfl
  crew := rfl
  history := rfl

theorem Session.alike_renamed (name : String) (s : Session τ) : s.Alike name (s.renamed name) :=
  ⟨s.world.alike_renamed name, rfl, rfl, rfl⟩

theorem abreast_image (name : String) (f : β → γ) (s : RunState τ β) :
    Abreast name s (s.image (translation name f)) where
  world := s.world.alike_renamed name
  reports := rfl
  outcomes := congrArg Glance.outcomes (s.glance_image _)
  now := rfl
  stop := rfl
  round := rfl
  queue := rfl
  timers := rfl

end Run

end Volley
