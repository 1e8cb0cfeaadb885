import Mathlib.Data.List.Induction
import Volley.Logging
import Volley.Proofs.Calendar.Years
import Volley.Proofs.Json.Compact

/-!
# Records between setups

Setups and log records come in any order. However often the loggers are set up, one handler writes
to the standard error stream: its format is that of the first setup, its level that of the latest.
So from the first setup on a record is written once if it reaches that level and not at all if it
does not, and never gets to the handlers outside. A record that is written as JSON is one line, from
which its level, its logger and its message can be read again.

## Main definitions

- `Logging.Act`, `Logging.perform`: loggers under a sequence of acts.
- `Logging.configured`: the configuration that setups leave.
- `Logging.Writes`: what is written for a record at a place in a sequence.
- `Logging.Restores`: a line from which a record can be read.

## Main results

- `perform_eq`: of all acts only the setups count, and of these the first and the latest.
- `restores_render`: a record that is rendered as JSON can be read from its line.
- `written_once`: what becomes of a record after a setup.
-/

namespace Volley

namespace Logging

/-! ### A sequence of acts -/

/-- A setup, or a record that is logged. -/
inductive Act where
  | setup (level : Int) (format : Format)
  | log (record : Record)

def Act.setup? : Act → Option (Int × Format)
  | .setup level format => some (level, format)
  | .log _ => none

/-- The loggers after an act, and the lines that it writes. -/
def act (l : Logging) : Act → Logging × List String
  | .setup level format => (l.setup level format, [])
  | .log r => (l, l.lines r)

/-- Loggers under a sequence of acts: how they are left, and the lines that are written. -/
def perform (l : Logging) : List Act → Logging × List String
  | [] => (l, [])
  | a :: rest =>
    let next := l.act a
    let others := perform next.1 rest
    (others.1, next.2 ++ others.2)

theorem perform_append (l : Logging) (before after : List Act) :
    l.perform (before ++ after) =
      (((l.perform before).1.perform after).1,
        (l.perform before).2 ++ ((l.perform before).1.perform after).2) := by
  induction before generalizing l with
  | nil => rfl
  | cons a rest ih => simp [perform, ih]

/-- The setups among acts. -/
def setups (acts : List Act) : List (Int × Format) :=
  acts.filterMap Act.setup?

/-- Loggers with one handler, which has their level, and with no way outside. -/
def single (level : Int) (format : Format) : Logging :=
  { level, handlers := [{ level, format }], propagates := false }

/-- The configuration that setups leave: the handler has the format of the first and the level of
the latest. -/
def configured (calls : List (Int × Format)) : Logging :=
  match calls.head?, calls.getLast? with
  | some first, some latest => single latest.1 first.2
  | _, _ => {}

/-- A further setup changes the level only. -/
theorem setup_configured (calls : List (Int × Format)) (level : Int) (format : Format) :
    (configured calls).setup level format = configured (calls ++ [(level, format)]) := by
  cases calls with
  | nil => rfl
  | cons first rest => simp [configured, single, List.getLast?_cons, setup]

theorem configured_eq_single {calls : List (Int × Format)} {level : Int} {format : Format}
    (first : calls.head?.map Prod.snd = some format)
    (latest : calls.getLast?.map Prod.fst = some level) :
    configured calls = single level format := by
  obtain ⟨_, head, rfl⟩ := Option.map_eq_some_iff.1 first
  obtain ⟨_, last, rfl⟩ := Option.map_eq_some_iff.1 latest
  rw [configured, head, last]

/-- What acts leave is what their setups leave. -/
theorem perform_eq (acts : List Act) : (perform {} acts).1 = configured (setups acts) := by
  -- From the end: the last act is the latest setup, or it leaves the loggers as they are.
  induction acts using List.reverseRecOn with
  | nil => rfl
  | append_singleton acts a ih =>
    have grown : setups (acts ++ [a]) = setups acts ++ a.setup?.toList := by
      rw [setups, List.filterMap_append]
      cases a <;> rfl
    rw [perform_append, ih, grown]
    cases a with
    | setup level format => exact setup_configured (setups acts) level format
    | log r => exact congrArg configured (List.append_nil _).symm

/-! ### One record -/

/-- A record whose message can be filled in and whose time can be shown. -/
structure Record.Shows (r : Record) (message : String) : Prop where
  filled : r.message = some message
  dated : Calendar.Dated r.created

theorem Record.Shows.isSome_render {r : Record} {message : String} (readable : r.Shows message)
    (format : Format) : ∃ line, render format r message = some line := by
  -- Both formats show the time, and there is a text for it.
  cases format with
  | plain =>
    obtain ⟨time, shown⟩ := Option.isSome_iff_exists.1 (Calendar.isSome_plainText? readable.dated)
    exact ⟨plainLine r time message, by rw [render, shown, Option.map_some]⟩
  | json =>
    obtain ⟨time, shown⟩ := Option.isSome_iff_exists.1 (Calendar.isSome_isoText? readable.dated)
    exact ⟨(jsonValue r time message).compact, by rw [render, shown, Option.map_some]⟩

section single

variable {level : Int} {r : Record}

/-- One comparison decides, as the logger and its handler have the same level. -/
theorem enables_single (positive : 0 < level) (format : Format) (n : Int) :
    (single level format).enables n = decide (level ≤ n) := by
  have set : (single level format).effectiveLevel = level := if_neg (Int.ne_of_gt positive)
  have implied : level ≤ n → 0 < n := Int.lt_of_lt_of_le positive
  rw [enables, set, ← Bool.decide_and, decide_eq_decide]
  exact and_iff_right_of_imp implied

theorem lines_single_of_lt (positive : 0 < level) (short : r.level < level) (format : Format) :
    (single level format).lines r = [] := by
  rw [lines, enables_single positive, decide_eq_false (Int.not_le_of_gt short)]
  rfl

theorem lines_single {format : Format} {message line : String} (positive : 0 < level)
    (reached : level ≤ r.level) (filled : r.message = some message)
    (rendered : render format r message = some line) : (single level format).lines r = [line] := by
  -- The handler compares once more and cannot disagree.
  have made : ({ level, format } : Handler).line? r message = some line :=
    (if_pos reached).trans rendered
  rw [lines, enables_single positive, decide_eq_true reached, filled]
  simp [single, made]

end single

/-- A line of printable characters from which a record can be read, whatever it is about. -/
structure Restores (r : Record) (message line : String) : Prop where
  plain : Json.Plain line
  fields : ∀ decode, ∃ entries : Assoc String Json, Json.read decode line = some (.object entries) ∧
    entries.find? "level" = some (.text (levelName r.level)) ∧
    entries.find? "logger" = some (.text r.logger) ∧
    entries.find? "message" = some (.text message) ∧
    ∀ fault, r.cause = .fault fault → entries.find? "exception" = some (.text fault.headline)

theorem restores_render {r : Record} {message line : String}
    (rendered : render .json r message = some line) : Restores r message line := by
  obtain ⟨time, -, rfl⟩ := Option.map_eq_some_iff.1 rendered
  refine ⟨Json.plain_compact _, fun decode => ?_⟩
  -- Its keys are different, and all its values are texts.
  have readable : Json.Readable decode (jsonValue r time message) := by
    rw [jsonValue]
    cases r.cause <;> simp [Json.Readable, Json.ReadableEntries]
  -- The exception comes last, so the other entries are found without looking at the cause.
  refine ⟨_, Json.read_compact readable, rfl, rfl, rfl, ?_⟩
  intro fault same
  rw [same]
  rfl

/-- What is written for a record after some acts, whatever comes later: these lines, each with a
line break behind it. -/
structure Writes (before : List Act) (r : Record) (lines : List String) : Prop where
  between : ∀ after, (perform {} (before ++ .log r :: after)).2 =
    (perform {} before).2 ++ lines ++ ((perform {} before).1.perform after).2
  stream : (perform {} before).1.write r = String.join (lines.map fun line => line ++ "\n")

theorem writes_lines (before : List Act) (r : Record) :
    Writes before r ((configured (setups before)).lines r) := by
  rw [← perform_eq]
  refine ⟨fun after => ?_, rfl⟩
  rw [perform_append]
  simp [perform, act]

/-- After a setup a record is written once if it reaches the level of the latest setup, in the
format of the first, and else it is not written. It is never passed on to the handlers outside. -/
theorem written_once {before : List Act} {format : Format} {level : Int}
    (first : (setups before).head?.map Prod.snd = some format)
    (latest : (setups before).getLast?.map Prod.fst = some level) (positive : 0 < level)
    (r : Record) :
    (perform {} before).1.passesOn r = false ∧ (r.level < level → Writes before r []) ∧
      ∀ message, r.Shows message → level ≤ r.level →
        ∃ line, Writes before r [line] ∧ render format r message = some line ∧
          (format = .json → Restores r message line) := by
  have left := configured_eq_single first latest
  have writes := writes_lines before r
  rw [left] at writes
  refine ⟨?_, fun short => ?_, fun message readable reached => ?_⟩
  · -- Nothing is passed on, whatever the level.
    rw [perform_eq, left]
    exact Bool.and_false _
  · rwa [lines_single_of_lt positive short] at writes
  · obtain ⟨line, rendered⟩ := readable.isSome_render format
    rw [lines_single positive reached readable.filled rendered] at writes
    refine ⟨line, writes, rendered, ?_⟩
    rintro rfl
    exact restores_render rendered

namespace Sample

/-- Three setups, with records before the first and between two of them. -/
def reconfigured : List Act :=
  [.log { logger := "checkrun", level := 30, template := "early" }, .setup 20 .json,
    .log { logger := "checkrun.a", level := 20, template := "on %s", arguments := [.text "a"] },
    .setup 10 .plain, .setup 30 .json]

/-- A record that breaks lines in its logger, its message and its fault. -/
def broken : Record where
  logger := "checkrun.a\nb\t\u2028"
  level := 40
  template := "%d%% of \"%s\"\\\r\n\x7b\x7d"
  arguments := [.number (-5), .text "😀é\u0085\x00"]
  cause := .fault (.ordinary "ValueError" "line 1\nline \"2\"")
  created := 1700000000.25

def brokenMessage : String := "-5% of \"😀é\u0085\x00\"\\\r\n\x7b\x7d"

theorem shows_broken : broken.Shows brokenMessage where
  filled := by decide +kernel
  dated := ⟨1700000000, by decide +kernel, by decide, by decide⟩

theorem written_once_reconfigured :
    ∃ line, Writes reconfigured broken [line] ∧ render .json broken brokenMessage = some line ∧
      Restores broken brokenMessage line := by
  have first : (setups reconfigured).head?.map Prod.snd = some .json := rfl
  have latest : (setups reconfigured).getLast?.map Prod.fst = some 30 := rfl
  obtain ⟨-, -, shown⟩ := written_once first latest (by decide) broken
  obtain ⟨line, writes, rendered, restores⟩ := shown brokenMessage shows_broken (by decide)
  exact ⟨line, writes, rendered, restores rfl⟩

end Sample

end Logging

end Volley
