import Volley.Command
import Volley.Proofs.Metric.Export

/-!
# The exit status of the program

The program ends with status 0 if its configuration and its scenario could be built, the session
gave a result, and no threshold is exceeded; else with status 1. It touches no file before there is
a result, and nothing is sent before there is a scenario. The summary file does not depend on the
threshold, nor the status on the file.

All this is said of a command line that can be understood, whose run ends by an exit status of its
own: no fault that the program does not expect comes out of the scenario file or of the session, and
the result can be shown and written.

## Main definitions

- `Command.configOf`, `Command.sessionOf`, `Command.Ready`: the parts of a run.
- `Command.Undisturbed`: no fault that is not expected.
- `Command.Exceeds`: the rate of failed checks is over the threshold.
- `Command.Effects`: what a run amounts to.

## Main results

- `finish_of_exit`: what becomes of a result.
- `execute_effects`: status and effects of every run.
-/

namespace Volley

namespace Command

/-! ### The parts of a run -/

/-- The request configuration of environment and command line. -/
def configOf (setting : Setting) (arguments : Arguments.Run) :
    Except ConfigError (RequestConfig Float) :=
  RequestConfig.loadWith setting.environment
    { url := arguments.url, token := arguments.token, accept := arguments.accept,
      timeout := arguments.timeout }

/-- The session of a scenario. -/
def sessionOf (setting : Setting) (config : RequestConfig Float)
    (scenario : Scenario (Routine Float)) : Run.Session Float :=
  Run.perform
    { scenario := scenario.name, options := scenario.options, requestTimeout := config.timeout }
    scenario.body.body [.run] setting.transport setting.now setting.budget

/-- Configuration and scenario can be built. -/
def Ready (setting : Setting) (arguments : Arguments.Run) (config : RequestConfig Float)
    (scenario : Scenario (Routine Float)) : Prop :=
  configOf setting arguments = .ok config ∧ (choose setting arguments config).result = .ok scenario

/-- What came of the only run of a session. -/
def EndsBy (session : Run.Session Float) (ending : Run.Ending Float) : Prop :=
  session.reports.map Run.Report.ending = [ending]

/-- The session comes to its end, and whatever goes wrong in the scenario file or in the session is
an error that the program expects. -/
structure Undisturbed (setting : Setting) (arguments : Arguments.Run) : Prop where
  loading : ∀ config failure, configOf setting arguments = .ok config →
    (choose setting arguments config).result = .error (.load failure) →
    ∃ error, failure = .scenario error
  running : ∀ config scenario, Ready setting arguments config scenario →
    (sessionOf setting config scenario).demand = none ∧
    ∃ ending, EndsBy (sessionOf setting config scenario) ending ∧ ∀ fault, ending ≠ .aborted fault

/-- The rate of failed checks is over the threshold. -/
def Exceeds (threshold : Option Float) (r : RunResult Float) : Prop :=
  ∃ limit summary rate, threshold = some limit ∧ r.summary = some summary ∧
    summary.checkFailureRate = .ok rate ∧ limit < rate

/-! ### What becomes of a result -/

/-- A rate that is told is over the threshold, and if none is told the threshold is not exceeded. -/
theorem exceeds_ok {threshold : Option Float} {r : RunResult Float}
    {found : Option (Float × Float)} (told : exceeds threshold r = .ok found) :
    found.isSome ↔ Exceeds threshold r := by
  unfold exceeds at told
  split at told
  next limit summary taken =>
    cases rated : summary.checkFailureRate with
    | error e =>
      rw [rated] at told
      cases told
    | ok rate =>
      rw [rated] at told
      obtain rfl : (if limit < rate then some (rate, limit) else none) = found :=
        Except.ok.inj told
      constructor
      · intro some_
        by_cases above : limit < rate
        · exact ⟨limit, summary, rate, rfl, taken, rated, above⟩
        · simp [above] at some_
      · -- There is one summary and one rate of it, so the comparison is the one that was made.
        rintro ⟨_, _, _, ⟨⟩, taken', rated', above⟩
        obtain rfl : summary = _ := Option.some.inj (taken.symm.trans taken')
        obtain rfl : rate = _ := Except.ok.inj (rated.symm.trans rated')
        simp [above]
  -- Without a threshold or without a summary nothing is exceeded.
  next other =>
    cases told
    constructor
    · nofun
    · rintro ⟨limit, summary, rate, given, taken, -⟩
      exact absurd taken (other limit summary given)

/-- A verdict is the status 0 or 1, by whether the threshold is exceeded. -/
theorem verdict_status {threshold : Option Float} {r : RunResult Float} {status : Nat}
    {judgement : Console.Event} (told : verdict threshold r = .ok (status, judgement)) :
    (status = 0 ∨ status = 1) ∧ (status = 0 ↔ ¬ Exceeds threshold r) := by
  unfold verdict at told
  cases compared : exceeds threshold r with
  | error e =>
    rw [compared] at told
    cases told
  | ok found =>
    rw [compared] at told
    have same := exceeds_ok compared
    cases found with
    | none =>
      obtain ⟨rfl, -⟩ := Prod.mk.inj (Except.ok.inj told)
      exact ⟨.inl rfl, by simpa using same⟩
    | some above =>
      obtain ⟨rfl, -⟩ := Prod.mk.inj (Except.ok.inj told)
      exact ⟨.inr rfl, by simpa using same⟩

/-- A summary that was saved is in its file. -/
theorem save_of_exit {arguments : Arguments.Run} {before : Outcome} {r : RunResult Float}
    {status : Nat} (ends : (save arguments before r).ending = .exit status) :
    (arguments.summaryJson = none → (save arguments before r).files = before.files) ∧
    ∀ typed, arguments.summaryJson = some typed → ∃ text, r.fileText = .ok text ∧
      (save arguments before r).files.textAt? (Path.ofText typed) = some text := by
  unfold save at ends ⊢
  cases wanted : arguments.summaryJson with
  | none => exact ⟨fun _ => rfl, nofun⟩
  | some typed =>
    rw [wanted] at ends
    refine ⟨nofun, ?_⟩
    rintro _ ⟨⟩
    cases wrote : r.write before.files (Path.ofText typed) with
    | error e => simp [wrote] at ends
    | ok made =>
      obtain ⟨text, shown, there⟩ := RunResult.textAt?_of_write wrote
      simp only [wrote]
      exact ⟨text, shown, there⟩

/-- A result is shown, saved and judged; the verdict does not depend on what is saved. -/
theorem finish_of_exit {arguments : Arguments.Run} {before : Outcome} {r : RunResult Float}
    {status : Nat} (ends : (finish arguments before r).ending = .exit status) :
    (∃ judgement, verdict arguments.failOnCheckRate r = .ok (status, judgement)) ∧
    (arguments.summaryJson = none → (finish arguments before r).files = before.files) ∧
    ∀ typed, arguments.summaryJson = some typed → ∃ text, r.fileText = .ok text ∧
      (finish arguments before r).files.textAt? (Path.ofText typed) = some text := by
  unfold finish at ends ⊢
  cases shown : Console.ofResult r with
  | error e => simp [shown] at ends
  | ok events =>
    simp only [shown] at ends
    dsimp only
    -- The result is shown first, which leaves the files alone.
    generalize stood : { before with console := before.console ++ events } = shownBefore at ends ⊢
    have files : shownBefore.files = before.files := by rw [← stood]
    unfold judge at ends ⊢
    split at ends
    next status' verdict' judgement saved judged =>
      obtain rfl : verdict' = status := by simpa using ends
      rw [judged]
      obtain ⟨kept, written⟩ := save_of_exit saved
      exact ⟨⟨judgement, rfl⟩, fun none_ => (kept none_).trans files, written⟩
    · cases ends
    next other fails =>
      -- Without an exit status there is no verdict.
      cases judged : verdict arguments.failOnCheckRate r with
      | error e => exact absurd judged (fails _ _ ends)
      | ok found => exact absurd judged (other _ _ _ ends)

/-! ### Status and effects -/

/-- What a run that ends with a status amounts to. -/
structure Effects (setting : Setting) (arguments : Arguments.Run) (status : Nat)
    (outcome : Outcome) : Prop where
  binary : status = 0 ∨ status = 1
  success : status = 0 ↔ ∃ config scenario r, Ready setting arguments config scenario ∧
    EndsBy (sessionOf setting config scenario) (.result r) ∧
    ¬ Exceeds arguments.failOnCheckRate r
  /-- Without a scenario nothing is opened, sent or written. -/
  refused : (¬ ∃ config scenario, Ready setting arguments config scenario) →
    outcome.files = setting.files ∧ outcome.world.transport = setting.transport
  /-- Without a result nothing is written. -/
  failed : ∀ config scenario, Ready setting arguments config scenario →
    (¬ ∃ r, EndsBy (sessionOf setting config scenario) (.result r)) →
    outcome.files = setting.files
  unsaved : arguments.summaryJson = none → outcome.files = setting.files
  /-- A summary file holds the export of the result, whatever the status. -/
  saved : ∀ config scenario r typed, Ready setting arguments config scenario →
    EndsBy (sessionOf setting config scenario) (.result r) →
    arguments.summaryJson = some typed → ∃ text, r.fileText = .ok text ∧
      outcome.files.textAt? (Path.ofText typed) = some text

section Effects

variable {setting : Setting} {arguments : Arguments.Run} {status : Nat}

theorem Ready.unique {config config' : RequestConfig Float}
    {scenario scenario' : Scenario (Routine Float)}
    (ready : Ready setting arguments config scenario)
    (ready' : Ready setting arguments config' scenario') :
    config' = config ∧ scenario' = scenario := by
  obtain rfl : config' = config := Except.ok.inj (ready'.1.symm.trans ready.1)
  exact ⟨rfl, Except.ok.inj (ready'.2.symm.trans ready.2)⟩

/-- A run that stops before there is a scenario has touched nothing. -/
theorem effects_stopEarly (never : ¬ ∃ config scenario, Ready setting arguments config scenario)
    (console : List Console.Event) (lines : List Journal.Line) :
    Effects setting arguments 1 (stopEarly setting (.exit 1) console lines "") := by
  refine ⟨.inr rfl, ⟨nofun, ?_⟩, fun _ => ⟨rfl, rfl⟩, fun _ _ _ _ => rfl, fun _ => rfl, ?_⟩
  · rintro ⟨config, scenario, r, ready, -⟩
    exact absurd ⟨config, scenario, ready⟩ never
  · intro config scenario r typed ready
    exact absurd ⟨config, scenario, ready⟩ never

/-- The status of a run without a result is 1. -/
theorem effects_of_failed {config : RequestConfig Float} {scenario : Scenario (Routine Float)}
    (ready : Ready setting arguments config scenario) {outcome : Outcome}
    (files : outcome.files = setting.files)
    (fails : ∀ r, ¬ EndsBy (sessionOf setting config scenario) (.result r)) :
    Effects setting arguments 1 outcome := by
  refine ⟨.inr rfl, ⟨nofun, ?_⟩, fun never => absurd ⟨config, scenario, ready⟩ never,
    fun _ _ _ _ => files, fun _ => files, ?_⟩
  · -- Another configuration and scenario would be the same ones.
    rintro ⟨config', scenario', r, ready', ends, -⟩
    obtain ⟨rfl, rfl⟩ := ready.unique ready'
    exact absurd ends (fails r)
  · intro config' scenario' r typed ready' ends
    obtain ⟨rfl, rfl⟩ := ready.unique ready'
    exact absurd ends (fails r)

theorem EndsBy.unique {session : Run.Session Float} {ending ending' : Run.Ending Float}
    (ends : EndsBy session ending) (ends' : EndsBy session ending') : ending' = ending :=
  List.head_eq_of_cons_eq (ends'.symm.trans ends)

/-- A run with a result has the effects of that result. -/
theorem effects_finish {config : RequestConfig Float} {scenario : Scenario (Routine Float)}
    (ready : Ready setting arguments config scenario) {r : RunResult Float}
    (gives : EndsBy (sessionOf setting config scenario) (.result r)) {before : Outcome}
    (files : before.files = setting.files)
    (ends : (finish arguments before r).ending = .exit status) :
    Effects setting arguments status (finish arguments before r) := by
  obtain ⟨⟨judgement, judged⟩, unsaved, saved⟩ := finish_of_exit ends
  obtain ⟨binary, success⟩ := verdict_status judged
  refine ⟨binary, ?_, fun never => absurd ⟨config, scenario, ready⟩ never, ?_,
    fun none_ => (unsaved none_).trans files, ?_⟩
  · rw [success]
    constructor
    · exact fun below => ⟨config, scenario, r, ready, gives, below⟩
    · rintro ⟨config', scenario', r', ready', gives', below⟩
      obtain ⟨rfl, rfl⟩ := ready.unique ready'
      obtain rfl : r' = r := Run.Ending.result.inj (gives.unique gives')
      exact below
  · intro config' scenario' ready' none_
    obtain ⟨rfl, rfl⟩ := ready.unique ready'
    exact absurd ⟨r, gives⟩ none_
  · intro config' scenario' r' typed ready' gives' wanted
    obtain ⟨rfl, rfl⟩ := ready.unique ready'
    obtain rfl : r' = r := Run.Ending.result.inj (gives.unique gives')
    exact saved typed wanted

theorem effects_runScenario {config : RequestConfig Float} {scenario : Scenario (Routine Float)}
    (ready : Ready setting arguments config scenario) (entries : List (Journal.Entry Float))
    (undisturbed : Undisturbed setting arguments)
    (ends : (runScenario setting arguments config scenario entries).ending = .exit status) :
    Effects setting arguments status (runScenario setting arguments config scenario entries) := by
  obtain ⟨calm, ending, gives, quiet⟩ := undisturbed.running config scenario ready
  have told : (sessionOf setting config scenario).reports.map Run.Report.ending = [ending] := gives
  unfold runScenario at ends ⊢
  unfold sessionOf at calm told
  simp only [calm, told] at ends ⊢
  -- A session ends in one way, so another ending excludes a result.
  have without (others : ∀ r, ending ≠ .result r) (r : RunResult Float) :
      ¬ EndsBy (sessionOf setting config scenario) (.result r) :=
    fun gives' => others r (gives'.unique gives)
  cases ending with
  | result r => exact effects_finish ready gives rfl ends
  | aborted fault => exact absurd rfl (quiet fault)
  | silent =>
    obtain rfl : 1 = status := Ending.exit.inj ends
    exact effects_of_failed ready rfl (without (by simp))
  | failed cause =>
    obtain rfl : 1 = status := Ending.exit.inj ends
    exact effects_of_failed ready rfl (without (by simp))

/-- Every run has these effects: it stops at the configuration, at the scenario or after the
session. -/
theorem effects_run (undisturbed : Undisturbed setting arguments)
    (ends : (run setting arguments).ending = .exit status) :
    Effects setting arguments status (run setting arguments) := by
  unfold run at ends ⊢
  cases configured : configOf setting arguments with
  | error e =>
    unfold configOf at configured
    simp only [configured] at ends ⊢
    obtain rfl : 1 = status := Ending.exit.inj ends
    apply effects_stopEarly
    rintro ⟨config, scenario, ready, -⟩
    unfold configOf at ready
    rw [configured] at ready
    cases ready
  | ok config =>
    have read := configured
    unfold configOf at read
    simp only [read] at ends ⊢
    cases built : (choose setting arguments config).result with
    | ok scenario =>
      simp only [built] at ends ⊢
      exact effects_runScenario ⟨configured, built⟩ _ undisturbed ends
    | error failure =>
      -- The configuration is the only one, and no scenario was built with it.
      have never : ¬ ∃ config scenario, Ready setting arguments config scenario := by
        rintro ⟨config', scenario, configured', built'⟩
        obtain rfl : config' = config := Except.ok.inj (configured'.symm.trans configured)
        rw [built] at built'
        cases built'
      cases failure with
      | config e =>
        simp only [built] at ends ⊢
        obtain rfl : 1 = status := Ending.exit.inj ends
        exact effects_stopEarly never _ _
      | load failure =>
        -- Only an error of the scenario is expected here.
        obtain ⟨e, rfl⟩ := undisturbed.loading config failure configured built
        simp only [built] at ends ⊢
        obtain rfl : 1 = status := Ending.exit.inj ends
        exact effects_stopEarly never _ _

end Effects

/-- A command line that can be understood: it asks for a run, and the scenario file that it names is
there. -/
structure Understood (setting : Setting) (args : List String) (arguments : Arguments.Run) :
    Prop where
  parsed : Arguments.parse args = .run arguments
  there : ∀ typed, arguments.file = some typed → setting.files.isFile (Path.ofText typed) = true

theorem execute_of_understood {setting : Setting} {args : List String} {arguments : Arguments.Run}
    (understood : Understood setting args arguments) :
    execute setting args = run setting arguments := by
  unfold execute
  simp only [understood.parsed]
  cases named : arguments.file with
  | none => rfl
  | some typed => simp [understood.there typed named]

/-- What the program does with a command line that can be understood, if it ends by a status of its
own: it has the effects of a run, and another command line that only differs in the summary file
gives the same status if it also ends by one. -/
theorem execute_effects (setting : Setting) (args : List String) (arguments : Arguments.Run)
    (understood : Understood setting args arguments) (undisturbed : Undisturbed setting arguments)
    (status : Nat) (ends : (execute setting args).ending = .exit status) :
    Effects setting arguments status (execute setting args) ∧
    ∀ args' file status', Understood setting args' { arguments with summaryJson := file } →
      (execute setting args').ending = .exit status' → status' = status := by
  rw [execute_of_understood understood] at ends ⊢
  refine ⟨effects_run undisturbed ends, ?_⟩
  intro args' file status' understood' ends'
  rw [execute_of_understood understood'] at ends'
  -- Configuration, scenario and session are the same, and so is what the threshold says of them.
  have undisturbed' : Undisturbed setting { arguments with summaryJson := file } :=
    ⟨undisturbed.loading, undisturbed.running⟩
  have effects := effects_run undisturbed ends
  have effects' := effects_run undisturbed' ends'
  have same : status' = 0 ↔ status = 0 := effects'.success.trans effects.success.symm
  rcases effects.binary with rfl | rfl <;> rcases effects'.binary with rfl | rfl <;> simp at same ⊢

/-! ### A threshold that is exceeded -/

def Ending.status? : Ending → Option Nat
  | .exit status => some status
  | _ => none

theorem Ending.of_status? {ending : Ending} {status : Nat} (known : ending.status? = some status) :
    ending = .exit status := by
  cases ending with
  | exit other => exact congrArg Ending.exit (Option.some.inj known)
  | _ => cases known

/-- Without a scenario file no loading goes wrong. -/
theorem choose_of_builtIn {setting : Setting} {arguments : Arguments.Run}
    (builtIn : arguments.file = none) (config : RequestConfig Float) (failure : Loader.Failure) :
    (choose setting arguments config).result ≠ .error (.load failure) := by
  unfold choose Loader.build
  simp only [builtIn, Option.map_none]
  cases RunOptions.load setting.environment with
  | error e => simp
  | ok options =>
    dsimp only
    unfold Loader.withOptions
    split <;> simp

namespace Gate

/-- Every other response has a status that is not accepted. -/
def setting : Setting :=
  { transport := { replies := [{}, { status := 404 }] }, now := 100, budget := 300 }

def args : List String :=
  ["run", "-i", "2", "--summary-json", "out/summary.json", "--fail-on-check-rate", "0.25"]

def arguments : Arguments.Run :=
  match Arguments.parse args with
  | .run arguments => arguments
  | _ => {}

theorem understood : Understood setting args arguments := by
  refine ⟨?_, ?_⟩
  · have asks : (match Arguments.parse args with | .run _ => true | _ => false) = true := by
      decide +kernel
    unfold arguments
    split at asks
    next arguments parsed => simp only [parsed]
    · cases asks
  · have none_ : arguments.file = none := by decide +kernel
    rw [none_]
    exact nofun

/-- The session of the run gives a result. -/
def gives : Bool :=
  match configOf setting arguments with
  | .error _ => false
  | .ok config =>
    match (choose setting arguments config).result with
    | .error _ => false
    | .ok scenario =>
      let session := sessionOf setting config scenario
      session.demand.isNone && match session.reports.map Run.Report.ending with
        | [.result _] => true
        | _ => false

theorem undisturbed : Undisturbed setting arguments := by
  refine ⟨?_, ?_⟩
  · intro config failure _ built
    exact absurd built (choose_of_builtIn (by decide +kernel) config failure)
  · rintro config scenario ⟨configured, built⟩
    have holds : gives = true := by decide +kernel
    unfold gives at holds
    simp only [configured, built, Bool.and_eq_true] at holds
    obtain ⟨calm, reported⟩ := holds
    refine ⟨Option.isNone_iff_eq_none.mp calm, ?_⟩
    split at reported
    next r gives => exact ⟨.result r, gives, nofun⟩
    · cases reported

/-- Half of the checks fail, so the status is 1, but the summary is in its file. -/
theorem execute_effects_gate :
    Effects setting arguments 1 (execute setting args) ∧
    arguments.summaryJson = some "out/summary.json" ∧
    ((execute setting args).files.textAt? (Path.ofText "out/summary.json")).isSome = true :=
  ⟨(execute_effects setting args arguments understood undisturbed 1
      (Ending.of_status? (by decide +kernel))).1, by decide +kernel, by decide +kernel⟩

end Gate

end Command

end Volley
