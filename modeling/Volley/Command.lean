import Volley.Command.Arguments
import Volley.Console
import Volley.Metric.Export
import Volley.Run.Director
import Volley.Scenario.Routine

/-!
# The command line program

The command `run` takes its configuration from environment and command line, builds the scenario,
runs it, shows the result, writes it to a file if asked to, and compares the rate of failed checks
with a threshold. Errors of configuration, scenario and run are shown and end the program with
status 1; a command line that cannot be understood ends it with status 2.

## Main definitions

- `Command.Setting`: environment, files, transport and clock of a program run.
- `Command.Outcome`: everything that the program did.
- `Command.execute`: runs the program.
-/

namespace Volley

namespace Command

/-- What the program finds. -/
structure Setting where
  environment : Environment := []
  files : Loader.Files (Routine Float) := {}
  transport : Http.Transport Float := {}
  now : Float
  budget : Nat

/-- How the program ends. -/
inductive Ending where
  | exit (status : Nat)
  /-- With an exit status, because the result could not be shown or written or a path is out of the
  question. -/
  | crash (error : WriteError)
  | aborted (fault : Fault)

/-- What the program did. -/
structure Outcome where
  ending : Ending
  console : List Console.Event := []
  lines : List Journal.Line := []
  world : Run.World Float
  files : Loader.Files (Routine Float)
  output : String := ""

def versionLine : String := "checkrun 0.1.0\n"

/-- The remarks that are logged: from the level `info` on, or all of them. -/
def logged (verbose : Bool) (entries : List (Journal.Entry Float)) : List Journal.Line :=
  (entries.map Journal.Entry.line).filter fun line =>
    verbose || decide (Journal.Level.info.rank ≤ line.level.rank)

def errorText (heading message : String) : Console.Event :=
  .text ("[red]" ++ heading ++ "[/red] " ++ message)

def announcement (scenario target : String) (options : RunOptions Float) : Console.Event :=
  .panel "checkrun" "cyan"
    ("[bold]Scenario:[/bold]   " ++ scenario ++ "\n[bold]Target:[/bold]     " ++ target ++
      "\n[bold]VUs:[/bold]        " ++ Decimal.digits options.vus ++
      "\n[bold]Iterations:[/bold] " ++ Decimal.digits options.iterations)

/-- The rate of failed checks and the threshold, if the one exceeds the other. -/
def exceeds (threshold : Option Float) (r : RunResult Float) :
    Except Decimal.NumberError (Option (Float × Float)) :=
  match threshold, r.summary with
  | some limit, some s =>
    s.checkFailureRate.map fun rate => if limit < rate then some (rate, limit) else none
  | _, _ => .ok none

/-- The verdict on a result: exit status and what is shown. -/
def verdict (threshold : Option Float) (r : RunResult Float) :
    Except Decimal.NumberError (Nat × Console.Event) :=
  (exceeds threshold r).map fun found => match found with
    | some (rate, limit) =>
      (1, .text ("[red]FAIL:[/red] Check failure rate " ++ Console.percent rate ++
        " exceeds threshold " ++ Console.percent limit))
    | none => (0, .text "[green]Run completed.[/green]")

/-- The status that a demand to exit asks for, and what it leaves on the output: a message counts as
a failure, and an interrupt from the keyboard has a status of its own. -/
def departure (fault : Fault) : Nat × String :=
  if fault.name = "KeyboardInterrupt" then (130, "")
  else match fault.message with
    | none => (0, "")
    | some message => (1, message ++ "\n")

def Outcome.endedBy (outcome : Outcome) (fault : Fault) : Outcome :=
  if fault.isExiting then
    let (status, output) := departure fault
    { outcome with ending := .exit status, output }
  else { outcome with ending := .aborted fault }

def save (arguments : Arguments.Run) (before : Outcome) (r : RunResult Float) : Outcome :=
  match arguments.summaryJson with
  | none => before
  | some typed =>
    let path := Path.ofText typed
    match r.write before.files path with
    | .error e => { before with ending := .crash e }
    | .ok (files, entry) =>
      { before with
        files
        lines := before.lines ++ logged arguments.verbose [entry]
        console := before.console ++ [.text ("Summary written to " ++ path.text)] }

def judge (arguments : Arguments.Run) (before : Outcome) (r : RunResult Float) : Outcome :=
  -- A result that could not be saved is not judged any more.
  match before.ending, verdict arguments.failOnCheckRate r with
  | .exit _, .ok (status, judgement) =>
    { before with ending := .exit status, console := before.console ++ [judgement] }
  | .exit _, .error e => { before with ending := .crash (.number e) }
  | _, _ => before

def finish (arguments : Arguments.Run) (before : Outcome) (r : RunResult Float) : Outcome :=
  match Console.ofResult r with
  | .error e => { before with ending := .crash (.number e) }
  | .ok events =>
    let shown := { before with console := before.console ++ events }
    judge arguments (save arguments shown r) r

def runScenario (setting : Setting) (arguments : Arguments.Run) (config : RequestConfig Float)
    (scenario : Scenario (Routine Float)) (entries : List (Journal.Entry Float)) : Outcome :=
  -- A run from a file shows the name of the file as its target.
  let target := match arguments.file with
    | none => config.url
    | some typed => (Path.ofText typed).name
  let plan : Run.Plan Float :=
    { scenario := scenario.name, options := scenario.options, requestTimeout := config.timeout }
  let session := Run.perform plan scenario.body.body [.run] setting.transport setting.now
    setting.budget
  let before : Outcome :=
    { ending := .exit 0
      console :=
        [announcement scenario.name target scenario.options, .status "Running iterations..."]
      lines := logged arguments.verbose (entries ++ session.world.entries)
      world := session.world
      files := setting.files }
  -- A demand to exit comes before any result.
  match session.demand, session.reports.map Run.Report.ending with
  | some fault, _ => before.endedBy fault
  | none, [.result r] => finish arguments before r
  | none, [.aborted fault] => before.endedBy fault
  -- The error itself is in the log.
  | none, _ =>
    { before with
      ending := .exit 1
      console := before.console ++ [errorText "Run failed:" Journal.failureText] }

/-- The outcome of a program run that ends before anything was run. -/
def stopEarly (setting : Setting) (ending : Ending) (console : List Console.Event)
    (lines : List Journal.Line) (output : String) : Outcome :=
  { ending, console, lines, output, world := { transport := setting.transport },
    files := setting.files }

def choose (setting : Setting) (arguments : Arguments.Run) (config : RequestConfig Float) :
    Loader.Built (Routine Float) :=
  Loader.build setting.files (Routine.builtIn config) (RunOptions.load setting.environment)
    { file := arguments.file.map Path.ofText, name := arguments.scenario, vus := arguments.vus,
      iterations := arguments.iterations, maxDuration := arguments.maxDuration } .empty

def run (setting : Setting) (arguments : Arguments.Run) : Outcome :=
  let overrides : Overrides :=
    { url := arguments.url, token := arguments.token, accept := arguments.accept,
      timeout := arguments.timeout }
  match RequestConfig.loadWith setting.environment overrides with
  | .error e => stopEarly setting (.exit 1) [errorText "Error:" e.message] [] ""
  | .ok config =>
    let built := choose setting arguments config
    let lines := logged arguments.verbose built.entries
    match built.result with
    | .error (.config e) => stopEarly setting (.exit 1) [errorText "Error:" e.message] lines ""
    | .error (.load (.scenario e)) =>
      stopEarly setting (.exit 1) [errorText "Error:" e.message] lines ""
    | .error (.load (.file e)) => stopEarly setting (.crash (.file e)) [] lines ""
    | .error (.load (.fault fault)) => (stopEarly setting (.exit 0) [] lines "").endedBy fault
    | .ok scenario => runScenario setting arguments config scenario built.entries

/-- Runs the program with a command line. A scenario file that is named has to exist. -/
def execute (setting : Setting) (args : List String) : Outcome :=
  match Arguments.parse args with
  | .misuse => stopEarly setting (.exit 2) [] [] ""
  | .help => stopEarly setting (.exit 0) [] [] ""
  | .version => stopEarly setting (.exit 0) [] [] versionLine
  | .run arguments =>
    match arguments.file with
    | none => run setting arguments
    -- The file is looked for before anything else is done.
    | some typed =>
      if setting.files.isFile (Path.ofText typed) then run setting arguments
      else stopEarly setting (.exit 2) [] [] ""

end Command

end Volley
