import Volley.Text.Quoted

/-!
# Faults

What can go wrong while a body, a client or a scenario file does its work. A fault has the name of
its kind and perhaps a message. How far it reaches is its severity: a run contains ordinary
failures, is torn down by aborting ones, and treats a cancellation as the end of the task that it
hits. A demand to exit halts all work at once.

## Main definitions

- `Fault`, `Severity`.
- `Fault.named`: the fault of a kind given by name.
- `Fault.text`: the message as it is shown.
- `Fault.leaving`: the fault as it is seen outside of the task step that raised it.
- `Fault.summary`, `Fault.headline`: name and text in one line, as metrics and as logs record it.
-/

namespace Volley

/-- How far a fault reaches. -/
inductive Severity where
  /-- A failure of the work at hand, which the run survives. -/
  | ordinary
  /-- A failure that nothing on the way to the top holds up. -/
  | aborting
  /-- A demand to end the program, which halts every task where it stands. -/
  | exiting
  | cancelling
  deriving DecidableEq, Repr

/-- Something that went wrong: its severity, the name of its kind and the message that it was given.
-/
structure Fault where
  severity : Severity
  name : String
  message : Option String := none
  deriving DecidableEq, Repr

namespace Fault

def isOrdinary (f : Fault) : Bool :=
  f.severity == .ordinary

def isCancelling (f : Fault) : Bool :=
  f.severity == .cancelling

def isExiting (f : Fault) : Bool :=
  f.severity == .exiting

def ordinary (name message : String) : Fault :=
  { severity := .ordinary, name, message := some message }

def cancelled : Fault :=
  { severity := .cancelling, name := "CancelledError" }

/-- A request that took longer than the client's total timeout. -/
def timedOut : Fault :=
  { severity := .ordinary, name := "TimeoutError" }

/-- The marker in front of the name of an aborting kind. -/
def abortMarker : String := "Base:"

def grave : List (String × Severity) :=
  [("CancelledError", .cancelling), ("SystemExit", .exiting), ("KeyboardInterrupt", .exiting),
    ("GeneratorExit", .aborting), ("BaseException", .aborting)]

/-- The fault of the kind called `kind`. A marked kind aborts, whatever its name. -/
def named (kind : String) (message : Option String) : Fault :=
  if kind.startsWith abortMarker then
    { severity := .aborting, name := (kind.drop abortMarker.length).toString, message }
  -- Kinds that are not listed are ordinary.
  else { severity := (grave.lookup kind).getD .ordinary, name := kind, message }

/-- Whether a fault is a mistake in the text of a program. -/
def isMisspelling (f : Fault) : Bool :=
  f.isOrdinary && ["SyntaxError", "IndentationError", "TabError"].contains f.name

/-- The message of a fault as it is shown: a missing key between quotes, and `None` for a
misspelling without a message. -/
def text (f : Fault) : String :=
  match f.message with
  | none => if f.isMisspelling then "None" else ""
  | some message =>
    if f.isOrdinary && f.name == "KeyError" then Text.quoted message else message

/-- A fault as it is seen outside of the task step that raised it. There the sign that a sequence
has come to its end would be taken for the end of the step, so it becomes a failure. -/
def leaving (f : Fault) : Fault :=
  if f.isOrdinary && f.name == "StopIteration" then
    ordinary "RuntimeError" "coroutine raised StopIteration"
  else f

theorem isOrdinary_leaving {f : Fault} (isOrdinary : f.isOrdinary = true) :
    f.leaving.isOrdinary = true := by
  unfold leaving
  split
  · rfl
  · exact isOrdinary

def summary (f : Fault) : String :=
  f.name ++ ": " ++ f.text

/-- The name of the kind of a fault as a log shows it: that of a cancellation in full. -/
def fullName (f : Fault) : String :=
  if f.isCancelling then "asyncio.exceptions." ++ f.name else f.name

def detail (f : Fault) : String :=
  if f.isMisspelling then
    match f.message.getD "" with
    | "" => "<no detail available>"
    | message => message
  else f.text

/-- Name and text as a log shows them: the colon only before a text. -/
def headline (f : Fault) : String :=
  if f.detail = "" then f.fullName else f.fullName ++ ": " ++ f.detail

end Fault

end Volley
