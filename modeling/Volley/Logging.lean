import Volley.Calendar
import Volley.Fault
import Volley.Json

/-!
# Logging

Log records are written to the standard error stream by the handlers of the topmost logger. A setup
that finds no handler adds one, fixes its format and cuts the loggers off from those outside; every
setup sets the level of the logger and of its handlers. Before the first setup, records that matter
enough are written as their bare message.

## Main definitions

- `Logging`: the configuration, with `Logging.setup` and `Logging.effectiveLevel`.
- `Logging.Record`: a log record; `Logging.Record.message` fills in its arguments.
- `Logging.lines`, `Logging.write`: what a record writes.
-/

namespace Volley

/-- The format of the handler. -/
inductive Logging.Format where
  | plain
  | json
  deriving DecidableEq, Repr

/-- A handler of the standard error stream. -/
structure Logging.Handler where
  level : Int
  format : Logging.Format
  deriving DecidableEq, Repr

/-- The configuration of the loggers: the level of the topmost one, zero when none was set, its
handlers, and whether records reach the handlers outside. -/
structure Logging where
  level : Int := 0
  handlers : List Logging.Handler := []
  propagates : Bool := true
  deriving DecidableEq, Repr

namespace Logging

def rootName : String := "checkrun"

def loggerName (name : String) : String :=
  rootName ++ "." ++ name

/-- The level of everyday messages, which a setup sets unless told otherwise. -/
def defaultLevel : Int := 20

/-- The level of warnings, which holds where no level was set. -/
def warningLevel : Int := 30

/-- Sets the level, and adds a handler if there is none. -/
def setup (l : Logging) (level : Int) (format : Format) : Logging :=
  if l.handlers.isEmpty then { level, handlers := [{ level, format }], propagates := false }
  -- The handler that is there keeps its format.
  else { l with level, handlers := l.handlers.map fun h => { h with level } }

/-- The first handler. -/
def handler (l : Logging) : Option Handler :=
  l.handlers.head?

def effectiveLevel (l : Logging) : Int :=
  if l.level = 0 then warningLevel else l.level

/-- Whether records of a level are made. Levels that are not positive are switched off. -/
def enables (l : Logging) (level : Int) : Bool :=
  decide (0 < level) && decide (l.effectiveLevel ≤ level)

def levelName (level : Int) : String :=
  if level = 50 then "CRITICAL"
  else if level = 40 then "ERROR"
  else if level = 30 then "WARNING"
  else if level = 20 then "INFO"
  else if level = 10 then "DEBUG"
  else if level = 0 then "NOTSET"
  else "Level " ++ Decimal.integer level

/-- An argument of a message. -/
inductive Argument where
  | text (s : String)
  | number (n : Int)
  deriving DecidableEq, Repr

/-- What a record tells about a fault. -/
inductive Cause where
  | none
  | empty
  | fault (fault : Fault)
  deriving DecidableEq, Repr

/-- A log record. -/
structure Record where
  logger : String
  level : Int
  template : String
  arguments : List Argument := []
  cause : Cause := .none
  created : Float := 0

def Argument.shown : Argument → String
  | .text s => s
  | .number n => Decimal.integer n

/-- Fills arguments into a template: `%s` takes any, `%d` a number, `%%` is a percent sign. All
arguments have to be used. -/
def fill : List Char → List Argument → Option (List Char)
  | [], [] => some []
  | [], _ :: _ => none
  | '%' :: '%' :: rest, arguments => (fill rest arguments).map ('%' :: ·)
  | '%' :: 's' :: rest, argument :: others =>
    (fill rest others).map (argument.shown.toList ++ ·)
  | '%' :: 'd' :: rest, .number n :: others =>
    (fill rest others).map ((Decimal.integer n).toList ++ ·)
  -- Any other letter, or an argument of the wrong kind.
  | '%' :: _, _ => none
  | c :: rest, arguments => (fill rest arguments).map (c :: ·)

/-- The message of a record: its template as it stands if it has no arguments. `none` if the
arguments do not fit. -/
def Record.message (r : Record) : Option String :=
  if r.arguments.isEmpty then some r.template
  else (fill r.template.toList r.arguments).map String.ofList

def withCause (text : String) (cause : Cause) : String :=
  -- The cause begins on a line of its own.
  let broken := if text.endsWith "\n" then text else text ++ "\n"
  match cause with
  | .none => text
  | .empty => broken ++ "NoneType: None"
  | .fault fault => broken ++ fault.headline

def column (name : String) : String :=
  String.ofList (name.toList ++ List.replicate (8 - name.length) ' ')

def plainLine (r : Record) (time message : String) : String :=
  withCause (time ++ " [" ++ column (levelName r.level) ++ "] " ++ r.logger ++ ": " ++ message)
    r.cause

def jsonValue (r : Record) (time message : String) : Json :=
  .object ([("timestamp", .text time),
    ("level", .text (levelName r.level)), ("logger", .text r.logger),
    ("message", .text message)] ++
    match r.cause with
    | .fault fault => [("exception", .text fault.headline)]
    | _ => [])

/-- A record in a format, if the format has room for the time. -/
def render (format : Format) (r : Record) (message : String) : Option String :=
  match format with
  | .plain => (Calendar.plainText? r.created).map fun time => plainLine r time message
  | .json => (Calendar.isoText? r.created).map fun time => (jsonValue r time message).compact

/-- What a handler makes of a record. One that cannot be rendered is dropped. -/
def Handler.line? (h : Handler) (r : Record) (message : String) : Option String :=
  if h.level ≤ r.level then render h.format r message else none

/-- What a record writes to the standard error stream, handler by handler. Without a handler it is
the bare message of a warning or worse. -/
def lines (l : Logging) (r : Record) : List String :=
  if l.enables r.level then
    match r.message with
    | none => []
    | some message =>
      if l.handlers.isEmpty then
        if warningLevel ≤ r.level then [withCause message r.cause] else []
      else l.handlers.filterMap fun h => h.line? r message
  else []

def write (l : Logging) (r : Record) : String :=
  String.join ((l.lines r).map fun line => line ++ "\n")

/-- Whether a record is passed on to the handlers outside. -/
def passesOn (l : Logging) (r : Record) : Bool :=
  l.enables r.level && l.propagates

end Logging

end Volley
