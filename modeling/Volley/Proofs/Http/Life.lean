import Mathlib.Data.List.Chain
import Volley.Proofs.Http.Call

/-!
# The life of a client

A client is entered and left, and called at any point of its life. Opening it may fail, which leaves
it as it was, and closing it may fail, after which it still holds the session, which is closed by
then. A call goes to the session that the client holds. If it holds none the call is over at once,
and nothing is sent or measured.

Where enters and exits alternate, a call is sent on an open session if and only if the latest of
them is an enter that succeeded. Any other call is refused, unless an exit has failed: then it goes
to the closed session.

## Main definitions

- `Http.Moment`, `Http.Past`: what happens to a client, and what has happened.
- `Http.Life`: a client comes to a point of its life.
- `Http.Change`: what a moment does to a client and the sessions.
- `Http.Unsent`: a call that is over at once.

## Main results

- `change_of_step`: every step of a life is a change.
- `stands_of_life`: which session a client holds, and whether it is open.
- `life_of_run`: a visit is a life of its client.
- `sends_while_open`: when a call is sent, and on which session.
-/

namespace Volley

namespace Http

open Pool Visit

/-! ### Pasts -/

/-- What happens to a client. -/
inductive Moment where
  /-- It is opened, with this session. -/
  | entered (session : Nat)
  /-- Opening it fails. -/
  | refused
  | left
  /-- Closing it fails. -/
  | stuck
  | called (path : String) (extra : Headers)

/-- Whether a moment is an enter or an exit, if it is one of them. -/
def Moment.enters? : Moment → Option Bool
  | .entered _ => some true
  | .refused => some true
  | .left => some false
  | .stuck => some false
  | .called _ _ => none

/-- What has happened to a client, the latest first. -/
abbrev Past := List Moment

namespace Past

/-- The session that the client holds. -/
def held : Past → Option Nat
  | [] => none
  | .entered session :: _ => some session
  | .refused :: past => held past
  | .left :: _ => none
  | .stuck :: past => held past
  | .called _ _ :: past => held past

/-- Closing the session that the client holds has failed. -/
def spoilt : Past → Bool
  | [] => false
  | .entered _ :: _ => false
  | .refused :: past => spoilt past
  | .left :: _ => false
  | .stuck :: _ => true
  | .called _ _ :: past => spoilt past

/-- The latest enter or exit. -/
def latest? (past : Past) : Option Moment :=
  past.find? fun moment => moment.enters?.isSome

/-- No two enters follow each other, and no two exits. -/
def Alternating (past : Past) : Prop :=
  (past.filterMap Moment.enters?).IsChain (· ≠ ·)

instance (past : Past) : Decidable past.Alternating :=
  inferInstanceAs (Decidable (List.IsChain _ _))

theorem held_of_latest {past : Past} {session : Nat}
    (latest : past.latest? = some (.entered session)) :
    past.held = some session ∧ past.spoilt = false := by
  induction past with
  | nil => cases latest
  | cons moment past ih =>
    cases moment with
    | entered => cases latest; exact ⟨rfl, rfl⟩
    | called path extra => exact ih latest
    | _ => cases latest

theorem Alternating.earlier {moment : Moment} {past : Past}
    (alternating : Alternating (moment :: past)) : Alternating past := by
  unfold Alternating at alternating
  rw [List.filterMap_cons] at alternating
  split at alternating
  · exact alternating
  · exact alternating.tail

/-- After an enter that succeeded the next enter comes after an exit. -/
theorem Alternating.not_entered {past : Past} {session : Nat}
    (alternating : Alternating (.refused :: past)) : past.latest? ≠ some (.entered session) := by
  intro latest
  -- Since that enter there were only calls, so the two enters follow each other.
  obtain ⟨-, before, after, rfl, calls⟩ := List.find?_eq_some_iff_append.mp latest
  have none_ : before.filterMap Moment.enters? = [] := by
    simpa [List.filterMap_eq_nil_iff] using calls
  simp [Alternating, none_, Moment.enters?] at alternating

theorem latest_of_held {past : Past} (alternating : past.Alternating) {session : Nat}
    (held : past.held = some session) (intact : past.spoilt = false) :
    past.latest? = some (.entered session) := by
  induction past with
  | nil => cases held
  | cons moment past ih =>
    have earlier := alternating.earlier
    cases moment with
    | entered number => cases held; rfl
    | refused =>
      -- A session is held over from before only if an exit has failed.
      exact absurd (ih earlier held intact) alternating.not_entered
    | left => cases held
    | stuck => cases intact
    | called path extra => exact ih earlier held intact

end Past

/-! ### Lives -/

variable {τ : Type}

/-- A client, the mapping that its headers were taken from, and the transport. -/
structure Scene (τ : Type) where
  mapping : Headers
  client : Client τ
  transport : Transport τ

/-- A client as it is made. -/
def Scene.first (base : String) (given : Headers) (vu : Int) (timeout : τ)
    (transport : Transport τ) : Scene τ :=
  { mapping := given, client := Client.make base given vu timeout, transport }

section Lives

variable [Scalar τ] (receiver : Receiver)

/-- What can happen next to a client, or around it. -/
inductive Step (s : Scene τ) : Option Moment → Scene τ → Prop
  | entered {client : Client τ} {transport : Transport τ}
      (opened : s.client.enter s.transport = (.ok client, transport)) :
      Step s (some (.entered s.transport.sessions.length)) { s with client, transport }
  | refused {fault : Fault} {transport : Transport τ}
      (failed : s.client.enter s.transport = (.error fault, transport)) :
      Step s (some .refused) { s with transport }
  | left {client : Client τ} {transport : Transport τ}
      (closed : s.client.exit s.transport = (.ok client, transport)) :
      Step s (some .left) { s with client, transport }
  | stuck {fault : Fault} {transport : Transport τ}
      (failed : s.client.exit s.transport = (.error fault, transport)) :
      Step s (some .stuck) { s with transport }
  | called {desk : Desk τ} {path : String} {extra : Headers} {name : Option String} {start : τ}
      {waits : List (τ × Wake)} {turn : Turn τ (Desk τ) (Visit.Errand τ)}
      (here : desk.transport = s.transport)
      (call : Call receiver desk (.unsent s.client path extra name) start waits turn) :
      Step s (some (.called path extra)) { s with transport := turn.world.transport }
  /-- The owner of the mapping changes it. -/
  | amended (mapping : Headers) : Step s none { s with mapping }
  /-- The transport makes other plans, for faults or for replies. -/
  | replanned (transport : Transport τ) (same : transport.sessions = s.transport.sessions) :
      Step s none { s with transport }

/-- A client comes to a point of its life. -/
inductive Life (start : Scene τ) : Past → Scene τ → Prop
  | start : Life start [] start
  | step {past : Past} {s s' : Scene τ} {moment : Option Moment} (before : Life start past s)
      (step : Step receiver s moment s') : Life start (moment.toList ++ past) s'

end Lives

/-! ### Changes -/

namespace Session

def close (s : Session τ) : Session τ :=
  { s with closed := true }

def carry (request : Request) (s : Session τ) : Session τ :=
  { s with requests := s.requests ++ [request] }

end Session

/-- What a moment does to a client and the sessions. -/
inductive Change (c : Client τ) (sessions : List (Session τ)) :
    Option Moment → Client τ → List (Session τ) → Prop
  | entered : Change c sessions (some (.entered sessions.length))
      { c with session := some sessions.length } (sessions ++ [{ timeout := c.timeout }])
  | refused : Change c sessions (some .refused) c (sessions ++ [{ timeout := c.timeout }])
  | stayedOut (nothing : c.session = none) : Change c sessions (some .left) c sessions
  | left {session : Nat} (held : c.session = some session) :
      Change c sessions (some .left) { c with session := none }
        (sessions.modify session Session.close)
  | stuck {session : Nat} (held : c.session = some session) :
      Change c sessions (some .stuck) c (sessions.modify session Session.close)
  | sent {path : String} {extra : Headers} {session : Nat} (held : c.session = some session) :
      Change c sessions (some (.called path extra)) c
        (sessions.modify session (Session.carry (c.request path extra)))
  | unsent {path : String} {extra : Headers} (nothing : c.session = none) :
      Change c sessions (some (.called path extra)) c sessions
  | apart : Change c sessions none c sessions

section Clients

variable {c client : Client τ} {t t' : Transport τ} {fault : Fault}

theorem change_entered (opened : c.enter t = (.ok client, t')) :
    Change c t.sessions (some (.entered t.sessions.length)) client t'.sessions := by
  unfold Client.enter Transport.connect at opened
  dsimp only at opened
  split at opened
  -- The plan for the new session decides whether opening it fails.
  next number transport connected =>
    split at connected
    · cases connected
    · cases connected
      cases opened
      exact .entered
  · cases opened

theorem change_refused (failed : c.enter t = (.error fault, t')) :
    Change c t.sessions (some .refused) c t'.sessions := by
  unfold Client.enter Transport.connect at failed
  dsimp only at failed
  split at failed
  · cases failed
  next fault' transport connected =>
    split at connected
    · cases connected
      cases failed
      exact .refused
    · cases connected

theorem change_left (closed : c.exit t = (.ok client, t')) :
    Change c t.sessions (some .left) client t'.sessions := by
  unfold Client.exit at closed
  split at closed
  next nothing =>
    cases closed
    exact .stayedOut nothing
  next number held =>
    split at closed
    · cases closed
    next transport shut =>
      -- The session is closed either way; what is left out of the client depends on the fault.
      obtain rfl : (t.close number).2 = transport := congrArg Prod.snd shut
      cases closed
      exact .left held

theorem change_stuck (failed : c.exit t = (.error fault, t')) :
    Change c t.sessions (some .stuck) c t'.sessions := by
  unfold Client.exit at failed
  split at failed
  · cases failed
  next number held =>
    split at failed
    next fault' transport shut =>
      obtain rfl : (t.close number).2 = transport := congrArg Prod.snd shut
      cases failed
      exact .stuck held
    · cases failed

end Clients

/-- A call that is over at once: nothing was sent, and nothing was measured. -/
structure Unsent (desk : Desk τ) (waits : List (τ × Wake))
    (turn : Turn τ (Desk τ) (Visit.Errand τ)) : Prop where
  waits : waits = []
  fails : turn.pause = .finish (.failed Client.notOpen)
  world : turn.world = { desk with outcome := .error Client.notOpen }

section Calls

variable [Scalar τ] {receiver : Receiver} {client : Client τ} {number : Nat} {desk : Desk τ}
  {path : String} {extra : Headers} {name : Option String} {start : τ} {waits : List (τ × Wake)}
  {turn : Turn τ (Desk τ) (Visit.Errand τ)} {t : Transport τ}

theorem unsent_of_call (nothing : client.session = none)
    (call : Call receiver desk (.unsent client path extra name) start waits turn) :
    Unsent desk waits turn := by
  induction call with
  | begun now =>
    refine ⟨rfl, ?_, ?_⟩
    all_goals simp [work, Client.send, nothing]
  | resumed before pausing g wake ih =>
    -- The first turn is the last.
    rw [ih.fails] at pausing
    cases pausing

omit [Scalar τ] in
theorem transport_follow (desk : Desk τ) (errand : Visit.Errand τ) (progress : Progress τ) :
    (follow receiver desk errand progress).world.transport = desk.transport := by
  cases progress with
  | waiting delay flight => rfl
  | ended metric outcome => rfl

omit [Scalar τ] in
theorem flying_of_follow {errand : Visit.Errand τ} {progress : Progress τ}
    (pausing : (follow receiver desk errand progress).pause.outcome? = none) :
    ∃ flight, (follow receiver desk errand progress).state = .flying flight := by
  cases progress with
  | waiting delay flight => exact ⟨flight, rfl⟩
  | ended metric outcome => cases pausing

/-- Whoever takes the metrics, a call sends its request in its first turn and no other. -/
theorem transport_of_call (held : client.session = some number)
    (call : Call receiver desk (.unsent client path extra name) start waits turn) :
    turn.world.transport = (desk.transport.receive number (client.request path extra)).2 ∧
      (turn.pause.outcome? = none → ∃ flight, turn.state = .flying flight) := by
  induction call with
  | @begun g now =>
    have sends : work receiver g desk (.unsent client path extra name) .elapsed =
        follow receiver (sentFrom desk number (client.request path extra))
          (.unsent client path extra name)
          ((sentBy client desk.transport g.now path extra name).advance g.now) := by
      simp only [work, Client.send, held]
      rfl
    rw [sends]
    exact ⟨transport_follow _ _ _, flying_of_follow⟩
  | @resumed past turn before pausing g wake ih =>
    -- A call that goes on is in flight, and a flight sends nothing.
    obtain ⟨sent, flies⟩ := ih
    obtain ⟨flight, flying⟩ := flies pausing
    rw [flying]
    cases wake with
    | elapsed => exact ⟨(transport_follow _ _ _).trans sent, flying_of_follow⟩
    | dismissed => exact ⟨(transport_follow _ _ _).trans sent, flying_of_follow⟩

/-- Whether a call is sent depends on the client only, which it leaves as it is. -/
theorem change_called (here : desk.transport = t)
    (call : Call receiver desk (.unsent client path extra name) start waits turn) :
    Change client t.sessions (some (.called path extra)) client turn.world.transport.sessions := by
  cases held : client.session with
  | none =>
    rw [(unsent_of_call held call).world, here]
    exact .unsent held
  | some number =>
    rw [(transport_of_call held call).1, here]
    exact .sent held

/-- Every step of a life is a change. -/
theorem change_of_step {s s' : Scene τ} {moment : Option Moment}
    (step : Step receiver s moment s') :
    Change s.client s.transport.sessions moment s'.client s'.transport.sessions := by
  cases step with
  | entered opened => exact change_entered opened
  | refused failed => exact change_refused failed
  | left closed => exact change_left closed
  | stuck failed => exact change_stuck failed
  | called here call => exact change_called here call
  | amended mapping => exact .apart
  | replanned transport same =>
    rw [same]
    exact .apart

end Calls

/-! ### The session that a client holds -/

/-- Where a client stands that was made like this, after such a past. -/
structure Stands (made : Client τ) (past : Past) (c : Client τ) (sessions : List (Session τ)) :
    Prop where
  client : c = { made with session := past.held }
  recorded : ∀ number, past.held = some number →
    ∃ session, sessions[number]? = some session ∧ session.closed = past.spoilt
  outside : past.held = none → past.spoilt = false

section Stands

variable {made c c' : Client τ} {past : Past} {sessions sessions' : List (Session τ)}
  {moment : Option Moment}

theorem recorded_append (created : List (Session τ)) {number : Nat} {session : Session τ}
    (there : sessions[number]? = some session) :
    (sessions ++ created)[number]? = some session := by
  obtain ⟨inside, -⟩ := List.getElem?_eq_some_iff.mp there
  exact (List.getElem?_append_left inside).trans there

/-- One change keeps track of the session that the client holds. -/
theorem stands_of_change (stands : Stands made past c sessions)
    (change : Change c sessions moment c' sessions') :
    Stands made (moment.toList ++ past) c' sessions' := by
  have session_ : c.session = past.held := by rw [stands.client]
  cases change with
  | entered =>
    refine ⟨by rw [stands.client]; rfl, ?_, nofun⟩
    rintro _ ⟨⟩
    exact ⟨_, List.getElem?_concat_length, rfl⟩
  | refused =>
    -- The session that was made in vain comes last, so the others keep their numbers.
    refine ⟨stands.client, fun number held => ?_, stands.outside⟩
    obtain ⟨session, there, flag⟩ := stands.recorded number held
    exact ⟨session, recorded_append _ there, flag⟩
  | stayedOut nothing =>
    refine ⟨?_, nofun, fun _ => rfl⟩
    rw [stands.client, ← session_, nothing]
    rfl
  | left held => exact ⟨by rw [stands.client]; rfl, nofun, fun _ => rfl⟩
  | @stuck number held =>
    -- The client holds on to the session that is now closed.
    have held' : past.held = some number := session_.symm.trans held
    refine ⟨stands.client, fun number' same => ?_, fun none_ => ?_⟩
    · obtain rfl : number = number' := Option.some.inj (held'.symm.trans same)
      obtain ⟨session, there, -⟩ := stands.recorded number held'
      exact ⟨session.close, by rw [List.getElem?_modify_eq, there]; rfl, rfl⟩
    · rw [show past.held = none from none_] at held'
      cases held'
  | @sent path extra number held =>
    have held' : past.held = some number := session_.symm.trans held
    refine ⟨stands.client, fun number' same => ?_, stands.outside⟩
    obtain rfl : number = number' := Option.some.inj (held'.symm.trans same)
    obtain ⟨session, there, flag⟩ := stands.recorded number held'
    exact ⟨session.carry (c.request path extra), by rw [List.getElem?_modify_eq, there]; rfl, flag⟩
  | unsent nothing => exact ⟨stands.client, stands.recorded, stands.outside⟩
  | apart => exact stands

variable [Scalar τ] {receiver : Receiver} {start s : Scene τ}

/-- At every point of its life a client is as it was made, but for the session that it holds, which
is open unless closing it has failed. -/
theorem stands_of_life (unopened : start.client.session = none)
    (life : Life receiver start past s) :
    Stands start.client past s.client s.transport.sessions := by
  induction life with
  | start => exact ⟨by rw [Past.held, ← unopened], nofun, fun _ => rfl⟩
  | step before step ih => exact stands_of_change ih (change_of_step step)

end Stands

/-! ### Visits -/

/-- Whether an act is an enter or an exit, if it is one of them. -/
def Visit.Act.enters? : Act τ → Option Bool
  | .enter => some true
  | .exit => some false
  | .pass _ => none
  | .get _ _ _ _ => none

section Visits

variable [Scalar τ] {receiver : Receiver} {start : Scene τ} {mapping : Headers} {budget : Nat}

/-- A request of a visit is a call in the life of its client, once it has begun. -/
theorem life_of_calling {client : Client τ} {transport : Transport τ} {past : Past} {path : String}
    {extra : Headers} {name : Option String} {v : View (Desk τ) (Caller τ) (Visit.Errand τ)}
    (calling : Calling receiver { transport } (.unsent client path extra name) v)
    (life : Life receiver start past { mapping, client, transport }) :
    ∃ moments : Past, moments.filterMap Moment.enters? = [] ∧
      Life receiver start (moments ++ past)
        { mapping, client, transport := v.world.transport } := by
  cases calling with
  | before caller nobody world =>
    rw [world]
    exact ⟨[], rfl, life⟩
  | unbegun caller alone state world =>
    rw [world]
    exact ⟨[], rfl, life⟩
  | called caller alone call state outcome world =>
    rw [world]
    exact ⟨[_], rfl, life.step (.called rfl call)⟩

/-- An act of a visit is a step of the life of its client, or it does not concern it. -/
theorem life_of_act {s s' : State τ} {past : Past} {a : Act τ} {report : Report τ}
    (acts : act receiver budget s a = .ok (report, s'))
    (life : Life receiver start past { mapping, client := s.client, transport := s.transport }) :
    ∃ moments : Past, moments.filterMap Moment.enters? = a.enters?.toList ∧
      Life receiver start (moments ++ past)
        { mapping, client := s'.client, transport := s'.transport } := by
  -- An act does one thing to the client, and a request may not have begun when the budget ends.
  cases a with
  | enter =>
    unfold act at acts
    dsimp only at acts
    split at acts
    next client transport opened =>
      cases acts
      exact ⟨[_], rfl, life.step (.entered opened)⟩
    next fault transport failed =>
      cases acts
      exact ⟨[_], rfl, life.step (.refused failed)⟩
  | exit =>
    unfold act at acts
    dsimp only at acts
    split at acts
    next client transport closed =>
      cases acts
      exact ⟨[_], rfl, life.step (.left closed)⟩
    next fault transport failed =>
      cases acts
      exact ⟨[_], rfl, life.step (.stuck failed)⟩
  | pass time =>
    cases acts
    exact ⟨[], rfl, life⟩
  | get path extra name cancelAfter =>
    unfold act Visit.get at acts
    dsimp only at acts
    split at acts
    · cases acts
    · cases acts
      exact life_of_calling (calling_conduct s.now _ budget) life

/-- A visit is a life of its client. -/
theorem life_of_run {acts : List (Act τ)} {s last : State τ} {past : Past}
    {reports : List (Report τ)} (runs : run receiver budget s acts = .ok (reports, last))
    (life : Life receiver start past { mapping, client := s.client, transport := s.transport }) :
    ∃ moments : Past,
      moments.filterMap Moment.enters? = (acts.filterMap Act.enters?).reverse ∧
      Life receiver start (moments ++ past)
        { mapping, client := last.client, transport := last.transport } := by
  induction acts generalizing s past reports with
  | nil =>
    cases runs
    exact ⟨[], rfl, life⟩
  | cons first rest ih =>
    unfold Visit.run at runs
    split at runs
    · cases runs
    next report next acts =>
      split at runs
      · cases runs
      next later last' runs' =>
        cases runs
        obtain ⟨moments, kinds, life⟩ := life_of_act acts life
        obtain ⟨moments', kinds', life⟩ := ih runs' life
        refine ⟨moments' ++ moments, ?_, by rwa [List.append_assoc]⟩
        rw [List.filterMap_append, kinds, kinds']
        cases kind : first.enters? <;> simp [kind]

end Visits

/-! ### Calls in the life of a client -/

/-- A request has gone out on a session, which was closed or not. -/
def SentOn (t : Transport τ) (number : Nat) (closed : Bool) (request : Request)
    (t' : Transport τ) : Prop :=
  (∃ session, t.sessions[number]? = some session ∧ session.closed = closed) ∧
    Received t number request t'

section Sending

variable [Scalar τ] {receiver : Receiver} {start s : Scene τ} {past : Past} {desk : Desk τ}
  {path : String} {extra : Headers} {name : Option String} {now : τ} {waits : List (τ × Wake)}
  {turn : Turn τ (Desk τ) (Visit.Errand τ)}

/-- A call goes to the session that the client holds. -/
theorem sentOn_of_held (unopened : start.client.session = none)
    (life : Life receiver start past s) (here : desk.transport = s.transport)
    (call : Call receiver desk (.unsent s.client path extra name) now waits turn) {number : Nat}
    (held : past.held = some number) :
    SentOn s.transport number past.spoilt (s.client.request path extra) turn.world.transport := by
  have stands := stands_of_life unopened life
  -- What the client holds is known, and so is that session.
  have session_ : s.client.session = some number := by rw [stands.client, held]
  obtain ⟨session, there, flag⟩ := stands.recorded number held
  obtain ⟨known, -⟩ := List.getElem?_eq_some_iff.mp there
  refine ⟨⟨session, there, flag⟩, ?_⟩
  rw [(transport_of_call session_ call).1, here]
  exact received_receive known _

/-- Without one it is over at once. -/
theorem unsent_of_not_held (unopened : start.client.session = none)
    (life : Life receiver start past s)
    (call : Call receiver desk (.unsent s.client path extra name) now waits turn)
    (nothing : past.held = none) : Unsent desk waits turn := by
  have stands := stands_of_life unopened life
  exact unsent_of_call (by rw [stands.client, nothing]) call

/-- Whatever enters and exits come in turn, and whichever of them fail: a call that comes after an
enter that has succeeded, with no enter or exit in between, sends its request on the session that
this enter has opened, which is not closed yet. Any other call is over at once and has sent nothing,
unless an exit has failed since the latest enter that succeeded: then it sends its request on the
session of that enter, which is closed. Visits are such lives. -/
theorem sends_while_open (receiver : Receiver) (base : String) (given : Headers) (vu : Int)
    (timeout : τ) (transport : Transport τ) :
    (∀ past s, Life receiver (Scene.first base given vu timeout transport) past s →
      past.Alternating → ∀ (desk : Desk τ) path extra name now waits turn,
        desk.transport = s.transport →
        Call receiver desk (.unsent s.client path extra name) now waits turn →
        (∀ number, past.latest? = some (.entered number) →
          SentOn s.transport number false (s.client.request path extra) turn.world.transport) ∧
        ((∀ number, past.latest? ≠ some (.entered number)) →
          (past.spoilt = false → Unsent desk waits turn) ∧
          (past.spoilt = true → ∃ number, past.held = some number ∧
            SentOn s.transport number true (s.client.request path extra)
              turn.world.transport))) ∧
    ∀ budget acts now reports last,
      run receiver budget { client := Client.make base given vu timeout, transport, now } acts =
        .ok (reports, last) →
      ∃ past : Past, past.filterMap Moment.enters? = (acts.filterMap Act.enters?).reverse ∧
        Life receiver (Scene.first base given vu timeout transport) past
          { mapping := given, client := last.client, transport := last.transport } := by
  have unopened : (Scene.first base given vu timeout transport).client.session = none := rfl
  refine ⟨?_, ?_⟩
  · intro past s life alternating desk path extra name now waits turn here call
    refine ⟨fun number latest => ?_, fun other => ⟨fun intact => ?_, fun spoilt => ?_⟩⟩
    · obtain ⟨held, intact⟩ := Past.held_of_latest latest
      rw [← intact]
      exact sentOn_of_held unopened life here call held
    · -- Had the client a session that is not spoilt, an enter would have been the latest.
      refine unsent_of_not_held unopened life call ?_
      cases held : past.held with
      | none => rfl
      | some number => exact absurd (Past.latest_of_held alternating held intact) (other number)
    · -- Only a client that holds a session can be spoilt.
      cases held : past.held with
      | none =>
        rw [(stands_of_life unopened life).outside held] at spoilt
        cases spoilt
      | some number =>
        rw [← spoilt]
        exact ⟨number, rfl, sentOn_of_held unopened life here call held⟩
  · intro budget acts now reports last runs
    have made : Life receiver (Scene.first base given vu timeout transport) []
        { mapping := given, client := Client.make base given vu timeout, transport } := .start
    obtain ⟨moments, kinds, life⟩ := life_of_run runs made
    exact ⟨moments, kinds, by rwa [List.append_nil] at life⟩

end Sending

/-! ### A client that fails to close -/

namespace Reopened

/-- Closing the first session fails. -/
def transport : Transport Rat :=
  { closeFault := some (0, Fault.ordinary "OSError" "cannot close") }

def first : Scene Rat :=
  Scene.first "http://shop.example/" [("accept", "json")] 0 60 transport

def holding (session : Option Nat) (transport : Transport Rat) : Scene Rat :=
  { first with client := { first.client with session }, transport }

def opened : Scene Rat := holding (some 0) (transport.connect 60).2

def failed : Scene Rat := holding (some 0) (opened.transport.close 0).2

def reopened : Scene Rat := holding (some 1) (failed.transport.connect 60).2

def closed : Scene Rat := holding none (reopened.transport.close 1).2

/-- The first turn of a call. -/
def called (s : Scene Rat) : Turn Rat (Desk Rat) (Visit.Errand Rat) :=
  work (.taking none) { now := 0, stop := false, outcomes := [none] } { transport := s.transport }
    (.unsent s.client "/cart" [] none) .elapsed

theorem call_called (s : Scene Rat) :
    Call (.taking none) { transport := s.transport } (.unsent s.client "/cart" [] none) 0 []
      (called s) :=
  .begun rfl

theorem life_failed : Life (.taking none) first [.stuck, .entered 0] failed := by
  have enters : Life (.taking none) first [.entered 0] opened := Life.start.step (.entered rfl)
  exact enters.step (.stuck rfl)

theorem life_reopened :
    Life (.taking none) first [.entered 1, .stuck, .entered 0] reopened :=
  life_failed.step (.entered rfl)

theorem life_closed :
    Life (.taking none) first [.left, .entered 1, .stuck, .entered 0] closed :=
  life_reopened.step (.left rfl)

/-- The client that could not be closed still sends, on a session that is closed. -/
theorem sent_after_failed_exit :
    Life (.taking none) first [.stuck, .entered 0] failed ∧
    Past.Alternating [.stuck, .entered 0] ∧
    Call (.taking none) { transport := failed.transport } (.unsent failed.client "/cart" [] none) 0
      [] (called failed) ∧
    (called failed).world.transport.sessions.map (fun s => (s.requests.length, s.closed)) =
      [(1, true)] ∧
    (called failed).world.metrics.length = 1 ∧
    ¬ Unsent { transport := failed.transport } [] (called failed) := by
  refine ⟨life_failed, by decide, call_called failed, by decide +kernel, by decide +kernel, ?_⟩
  intro unsent
  -- Had nothing been sent, there would be no metric.
  have counted : (called failed).world.metrics.length = 1 := by decide +kernel
  rw [unsent.world] at counted
  cases counted

/-- The client is opened, is not closed, is opened again, sends a request and is closed. -/
def acts : List (Act Rat) :=
  [.enter, .exit, .enter, .get "/cart" [] none none, .exit]

/-- Once it is opened again all is well, and when it is closed as well. -/
theorem sends_while_open_again :
    Past.Alternating [.left, .entered 1, .stuck, .entered 0] ∧
    SentOn reopened.transport 1 false
      { method := "GET", url := "http://shop.example/cart", headers := [("accept", "json")] }
      (called reopened).world.transport ∧
    Unsent { transport := closed.transport } [] (called closed) ∧
    ∃ reports last, run (.taking none) 20 { client := first.client, transport, now := 0 } acts =
        .ok (reports, last) ∧
      ∃ past : Past, past.filterMap Moment.enters? = [false, true, false, true] ∧
        Life (.taking none) first past
          { mapping := first.mapping, client := last.client, transport := last.transport } := by
  have alternating : Past.Alternating [.left, .entered 1, .stuck, .entered 0] := by decide
  obtain ⟨calls, visits⟩ := sends_while_open (.taking none) "http://shop.example/"
    [("accept", "json")] 0 60 transport
  obtain ⟨sends, -⟩ := calls _ _ life_reopened alternating.earlier _ _ _ _ _ _ _ rfl
    (call_called reopened)
  obtain ⟨-, others⟩ := calls _ _ life_closed alternating _ _ _ _ _ _ _ rfl (call_called closed)
  refine ⟨alternating, sends 1 rfl, (others nofun).1 rfl, ?_⟩
  have succeeds : (run (.taking none) 20 { client := first.client, transport, now := 0 }
      acts).isOk = true := by decide +kernel
  cases runs : run (.taking none) 20 { client := first.client, transport, now := 0 } acts with
  | error fault =>
    rw [runs] at succeeds
    cases succeeds
  | ok result => exact ⟨_, _, rfl, visits 20 acts 0 _ _ runs⟩

end Reopened

end Http

end Volley
