import Volley.Config.Environment
import Volley.Proofs.Decimal.Binary64
import Volley.Proofs.Scenario.Execution
import Volley.Scenario.Routine

/-!
# Accepted settings

Whatever the environment, the command line and the scenario file say: settings that are accepted are
in range, and settings that are not are refused with an error of the configuration or of the
scenario. The times have a gap. They are refused when they are at most zero, and a time that is no
number is not, so it is accepted like a positive one.

## Main definitions

- `RequestConfig.Valid`, `RunOptions.Valid`: settings in range.
- `Loader.OnlyOrdinary`: a scenario file that raises ordinary faults at most.
- `Loader.Judged`: a scenario with valid options, or a refusal.

## Main results

- `accepted_valid`: what is accepted is valid.
- `RequestConfig.undefined_timeout_accepted`: a timeout that is no number is accepted.
-/

namespace Volley

/-- A time in range. What is no number is not told from a positive time. -/
def IsTime (time : Float) : Prop :=
  0 < time ∨ time.isNaN = true

/-! ### Statuses -/

namespace StatusSet

def IsStatus (code : Int) : Prop :=
  100 ≤ code ∧ code ≤ 599

/-- A code that is read is in range, since codes out of range are refused where they are read. -/
theorem isStatus_of_readPiece {piece : List Char} {code? : Option Int}
    (read : readPiece piece = .ok code?) : ∀ code ∈ code?, IsStatus code := by
  unfold readPiece at read
  dsimp only at read
  -- In turn: a blank piece, no integer, a code in range and one out of range.
  split at read
  · cases read
    exact nofun
  · split at read
    · cases read
    next code _ =>
      split at read
      next inRange =>
        cases read
        rintro _ ⟨⟩
        exact inRange
      · cases read

/-- Codes out of range are not read over. -/
theorem isStatus_of_readPieces {pieces : List (List Char)} {codes : List Int}
    (read : readPieces pieces = .ok codes) : ∀ code ∈ codes, IsStatus code := by
  induction pieces generalizing codes with
  | nil =>
    cases read
    exact nofun
  | cons piece rest ih =>
    unfold readPieces at read
    split at read
    · cases read
    next code? first =>
      split at read
      · cases read
      next others later =>
        cases read
        intro code member
        rcases List.mem_append.mp member with here | there
        · exact isStatus_of_readPiece first code (Option.mem_toList.mp here)
        · exact ih later code there

theorem parse_ok {text : String} {set : StatusSet} (parsed : parse text = .ok set) :
    set ≠ [] ∧ ∀ code ∈ set, IsStatus code := by
  unfold parse at parsed
  split at parsed
  · cases parsed
  · cases parsed
  next codes some_ read =>
    cases parsed
    -- A set has the codes that it was made from.
    have same (code : Int) : code ∈ ofList codes ↔ code ∈ codes := by
      simpa [contains] using contains_ofList codes code
    constructor
    · obtain ⟨code, member⟩ := List.exists_mem_of_ne_nil codes (by simpa using some_)
      exact List.ne_nil_of_mem ((same code).mpr member)
    · intro code member
      exact isStatus_of_readPieces read code ((same code).mp member)

end StatusSet

/-! ### Requests -/

/-- A chain of checks that ends well is one whose links do. -/
theorem exists_of_bind_ok {ε α β : Type} {x : Except ε α} {f : α → Except ε β} {r : β}
    (ends : x >>= f = .ok r) : ∃ a, x = .ok a ∧ f a = .ok r := by
  cases x with
  | error e => cases ends
  | ok a => exact ⟨a, rfl, ends⟩

namespace RequestConfig

/-- A request configuration in range. -/
structure Valid (config : RequestConfig Float) : Prop where
  url : "http://".toList <+: config.url.toList ∨ "https://".toList <+: config.url.toList
  token : config.token ≠ ""
  some_ : config.accepted ≠ []
  statuses : ∀ code ∈ config.accepted, StatusSet.IsStatus code
  timeout : IsTime config.timeout

/-- What is made is made of the settings that were asked for, and they are in range. -/
theorem make_ok {url token : String} {accepted : StatusSet} {timeout : Float}
    {config : RequestConfig Float} (made : make url token accepted timeout = .ok config) :
    config = { url, token, accepted, timeout } ∧
      ((∀ code ∈ accepted, StatusSet.IsStatus code) → config.Valid) := by
  unfold make at made
  split at made
  · cases made
  next http =>
    split at made
    · cases made
    next token_ =>
      split at made
      · cases made
      next some_ =>
        split at made
        · cases made
        next positive =>
          cases made
          -- Each check that was passed is one of the fields.
          refine ⟨rfl, fun statuses => ⟨?_, token_, ?_, statuses, ?_⟩⟩
          · simpa only [Bool.not_eq_true', Bool.not_eq_false, isHttp, Bool.or_eq_true,
              List.isPrefixOf_iff_prefix] using http
          · simpa using some_
          · exact Decimal.Binary64.zero_lt_or_isNaN positive

theorem isStatus_of_loadAccepted {env : Environment} {accepted : StatusSet}
    (loads : loadAccepted env = .ok accepted) : ∀ code ∈ accepted, StatusSet.IsStatus code := by
  unfold loadAccepted at loads
  split at loads
  · cases loads
    simp [defaultAccepted, StatusSet.IsStatus]
  · exact (StatusSet.parse_ok loads).2

/-- An environment that can be loaded has a list of statuses and a timeout that can be read. -/
theorem load_ok {env : Environment} {config : RequestConfig Float} (loads : load env = .ok config) :
    loadAccepted env = .ok config.accepted ∧
      env.decimal "CHECKRUN_TIMEOUT" 60 = .ok config.timeout ∧
      config.url = (env.find? "CHECKRUN_URL").getD defaultUrl ∧
      config.token = (env.find? "CHECKRUN_TOKEN").getD defaultToken ∧ config.Valid := by
  obtain ⟨accepted, read, loads⟩ := exists_of_bind_ok loads
  obtain ⟨timeout, timed, loads⟩ := exists_of_bind_ok loads
  obtain ⟨rfl, valid⟩ := make_ok loads
  exact ⟨read, timed, rfl, rfl, valid (isStatus_of_loadAccepted read)⟩

/-- The statuses of an override, if it is given and is not empty. -/
def acceptedOr (given : Option String) (base : StatusSet) : Except ConfigError StatusSet :=
  match given with
  | none => .ok base
  | some text => if text = "" then .ok base else StatusSet.parse text

theorem loadWith_eq (env : Environment) (given : Overrides) :
    loadWith env given = load env >>= fun base =>
      acceptedOr given.accept base.accepted >>= fun accepted =>
        make (orElseText given.url base.url) (orElseText given.token base.token) accepted
          (given.timeout.getD base.timeout) := by
  unfold loadWith acceptedOr
  congr 1
  funext base
  cases given.accept with
  | none => rfl
  | some text =>
    dsimp only
    split <;> rfl

theorem isStatus_of_acceptedOr {given : Option String} {base accepted : StatusSet}
    (valid : ∀ code ∈ base, StatusSet.IsStatus code) (read : acceptedOr given base = .ok accepted) :
    ∀ code ∈ accepted, StatusSet.IsStatus code := by
  unfold acceptedOr at read
  split at read
  · -- A set that was kept comes from the environment, and one that was given is checked when
    -- parsed.
    cases read
    exact valid
  · split at read
    · cases read
      exact valid
    · exact (StatusSet.parse_ok read).2

theorem valid_of_loadWith {env : Environment} {given : Overrides} {config : RequestConfig Float}
    (loads : loadWith env given = .ok config) : config.Valid := by
  rw [loadWith_eq] at loads
  obtain ⟨base, loaded, loads⟩ := exists_of_bind_ok loads
  obtain ⟨accepted, read, made⟩ := exists_of_bind_ok loads
  have valid := (load_ok loaded).2.2.2.2
  exact (make_ok made).2 (isStatus_of_acceptedOr valid.statuses read)

end RequestConfig

/-! ### Runs -/

namespace RunOptions

/-- Run options in range. -/
structure Valid (options : RunOptions Float) : Prop where
  vus : 1 ≤ options.vus
  iterations : 1 ≤ options.iterations
  maxDuration : IsTime options.maxDuration

theorem valid_of_make {vus iterations : Int} {maxDuration : Float} {options : RunOptions Float}
    (made : make vus iterations maxDuration = .ok options) : options.Valid := by
  unfold make at made
  split at made
  · cases made
  next vus_ =>
    split at made
    · cases made
    next iterations_ =>
      split at made
      · cases made
      next positive =>
        cases made
        -- Counts were integers, and passing the check makes them positive naturals.
        have count {n : Int} (large : ¬ n < 1) : 1 ≤ n.toNat := by omega
        exact ⟨count vus_, count iterations_, Decimal.Binary64.zero_lt_or_isNaN positive⟩

theorem valid_of_load {env : Environment} {options : RunOptions Float}
    (loads : load env = .ok options) : options.Valid := by
  obtain ⟨vus, -, loads⟩ := exists_of_bind_ok loads
  obtain ⟨iterations, -, loads⟩ := exists_of_bind_ok loads
  obtain ⟨maxDuration, -, loads⟩ := exists_of_bind_ok loads
  exact valid_of_make loads

end RunOptions

/-! ### Scenarios -/

namespace Execution

variable {α : Type}

/-- A file fails by the faults that it raises, or by an ordinary one. -/
theorem isOrdinary_of_run {statements : List (Statement α)} {x x' : Execution α} {fault : Fault}
    (ordinary : ∀ fault, .raise fault ∈ statements → fault.isOrdinary = true)
    (fails : x.run statements = (x', some fault)) : fault.isOrdinary = true := by
  -- The statement that stopped the file is the last that was executed.
  obtain ⟨-, raises⟩ := run_eq_some_iff.1 fails
  cases raises with
  | raise => exact ordinary _ (by simp)
  | _ => rfl

end Execution

namespace Loader

variable {α : Type}

/-- The scenario file, if one is given, raises no other than ordinary faults. -/
def OnlyOrdinary (files : Files α) (file : Option Path) : Prop :=
  ∀ p ∈ file, ∀ statements ∈ statements? files p, ∀ fault, .raise fault ∈ statements →
    fault.isOrdinary = true

/-- A refusal is an error of the configuration or, where a file is given, of the scenario. Only a
path that is too long to be looked up is an error of its own. -/
inductive Refuses (files : Files α) (file : Option Path) : BuildFailure → Prop
  | config (error : ConfigError) : Refuses files file (.config error)
  | scenario {p : Path} (given : file = some p) (error : ScenarioError) :
      Refuses files file (.load (.scenario error))
  | tooLong {p : Path} (given : file = some p) (long : files.locate p = .tooLong) :
      Refuses files file (.load (.file (.nameTooLong p.text)))

/-- A scenario was built with valid options, or it was refused. -/
structure Judged (files : Files α) (file : Option Path)
    (result : Except BuildFailure (Scenario α)) : Prop where
  accepted : ∀ s, result = .ok s → s.options.Valid
  refused : ∀ failure, result = .error failure → Refuses files file failure

theorem judged_withOptions (files : Files α) (file : Option Path) (choice : Choice)
    (s : Scenario α) : Judged files file (withOptions choice s) := by
  unfold withOptions
  split
  next e _ =>
    refine ⟨nofun, ?_⟩
    rintro _ ⟨⟩
    exact .config e
  next options made =>
    refine ⟨?_, nofun⟩
    rintro _ ⟨⟩
    exact RunOptions.valid_of_make made

/-- A file that is not loaded is refused, wherever the loader stops. -/
theorem refuses_of_load {files : Files α} {p : Path} {name : Option String} {registry : Registry α}
    {failure : Failure} (ordinary : OnlyOrdinary files (some p))
    (fails : (load files p name registry).result = .error failure) :
    Refuses files (some p) (.load failure) := by
  unfold load at fails
  split at fails
  -- The refusals in the order of the loader: a path that is too long, no file, a kind of file
  -- that is not loaded, a fault while it runs, and no scenario of that name.
  next long =>
    cases fails
    exact .tooLong rfl long.1
  next =>
    split at fails
    · cases fails
      exact .scenario rfl _
    next statements found =>
      split at fails
      · cases fails
        exact .scenario rfl _
      · unfold loadStatements at fails
        split at fails
        next x fault ran =>
          have plain := Execution.isOrdinary_of_run (ordinary p rfl statements found) ran
          rw [if_pos plain] at fails
          cases fails
          exact .scenario rfl _
        · split at fails
          · cases fails
            exact .scenario rfl _
          · cases fails

theorem judged_build {files : Files α} (builtIn : RunOptions Float → Scenario α)
    (env : Except ConfigError (RunOptions Float)) {choice : Choice} (registry : Registry α)
    (ordinary : OnlyOrdinary files choice.file) :
    Judged files choice.file (build files builtIn env choice registry).result := by
  unfold build
  cases given : choice.file with
  | none =>
    -- A scenario that is built in needs the options of the environment.
    cases env with
    | error e =>
      refine ⟨nofun, ?_⟩
      rintro _ ⟨⟩
      exact .config e
    | ok options => exact judged_withOptions _ _ _ _
  | some p =>
    rw [given] at ordinary
    dsimp only
    split
    next failure fails =>
      -- A file that could not be loaded has refused already.
      refine ⟨nofun, ?_⟩
      rintro _ ⟨⟩
      exact refuses_of_load ordinary fails
    · exact judged_withOptions _ _ _ _

end Loader

/-! ### All of them -/

/-- Whatever the environment, what is accepted is valid: requests and runs of the environment,
requests with overrides, and scenarios, built in or from a file. Where a scenario is not accepted it
is refused. -/
theorem accepted_valid (env : Environment) :
    (∀ config, RequestConfig.load env = .ok config → config.Valid) ∧
    (∀ given config, RequestConfig.loadWith env given = .ok config → config.Valid) ∧
    (∀ options, RunOptions.load env = .ok options → options.Valid) ∧
    ∀ (files : Loader.Files (Routine Float)) (config : RequestConfig Float)
      (choice : Loader.Choice) (registry : Registry (Routine Float)),
      Loader.OnlyOrdinary files choice.file →
      Loader.Judged files choice.file
        (Loader.build files (Routine.builtIn config) (RunOptions.load env) choice
          registry).result :=
  ⟨fun _ loads => (RequestConfig.load_ok loads).2.2.2.2,
    fun _ _ => RequestConfig.valid_of_loadWith, fun _ => RunOptions.valid_of_load,
    fun _ _ _ registry => Loader.judged_build _ _ registry⟩

/-! ### Samples -/

theorem exists_of_isOk {ε α : Type} {x : Except ε α} (ok : x.isOk = true) : ∃ a, x = .ok a := by
  cases x with
  | error e => cases ok
  | ok a => exact ⟨a, rfl⟩

namespace Accepted

/-- Every variable is set, one of them to an infinite time. -/
def environment : Environment :=
  [("CHECKRUN_URL", "https://shop.example/products"), ("CHECKRUN_TOKEN", "t0"),
    ("CHECKRUN_ACCEPTED_STATUSES", " 200, 503,"), ("CHECKRUN_TIMEOUT", "2.5"),
    ("CHECKRUN_VUS", "3"), ("CHECKRUN_ITERATIONS", "1_2"), ("CHECKRUN_MAX_DURATION", "inf")]

def overrides : Overrides :=
  { url := some "http://localhost/", accept := some "404", timeout := some 0.5 }

def load : Path := { parts := ["load.py"] }

def broken : Path := { parts := ["broken.py"] }

def loadStatements : List (Statement (Routine Float)) :=
  [.declare "load" { name := "load", options := { vus := 2 }, body := .script {} }]

def brokenStatements : List (Statement (Routine Float)) :=
  [.delete "load", .raise (.ordinary "RuntimeError" "no backend")]

def files : Loader.Files (Routine Float) :=
  { entries := [(["load.py"], .scenarios loadStatements),
      (["broken.py"], .scenarios brokenStatements)] }

/-- What is built from a file, with four virtual users. -/
def built (p : Path) : Except Loader.BuildFailure (Scenario (Routine Float)) :=
  (Loader.build files (Routine.builtIn .default) (RunOptions.load environment)
    { file := some p, vus := some 4 } .empty).result

theorem onlyOrdinary_load : Loader.OnlyOrdinary files (some load) := by
  rintro _ ⟨⟩ statements found fault raised
  have there : Loader.statements? files load = some loadStatements := rfl
  cases there.symm.trans found
  simp [loadStatements] at raised

theorem onlyOrdinary_broken : Loader.OnlyOrdinary files (some broken) := by
  rintro _ ⟨⟩ statements found fault raised
  have there : Loader.statements? files broken = some brokenStatements := rfl
  cases there.symm.trans found
  obtain rfl : fault = .ordinary "RuntimeError" "no backend" := by
    simpa [brokenStatements] using raised
  rfl

/-- The settings of the environment, those with overrides and a scenario from a file are accepted.
Another file is refused, as it fails. -/
theorem accepted_valid_sample :
    (∃ config, RequestConfig.load environment = .ok config ∧ config.Valid) ∧
    (∃ config, RequestConfig.loadWith environment overrides = .ok config ∧ config.Valid) ∧
    (∃ options, RunOptions.load environment = .ok options ∧ options.Valid) ∧
    (∃ s, built load = .ok s ∧ s.options.Valid) ∧
    ∃ failure, built broken = .error failure ∧ Loader.Refuses files (some broken) failure := by
  obtain ⟨configs, overridden, runs, scenarios⟩ := accepted_valid environment
  obtain ⟨config, loads⟩ : ∃ config, RequestConfig.load environment = .ok config :=
    exists_of_isOk (by decide +kernel)
  obtain ⟨config', loads'⟩ : ∃ config, RequestConfig.loadWith environment overrides = .ok config :=
    exists_of_isOk (by decide +kernel)
  obtain ⟨options, set⟩ : ∃ options, RunOptions.load environment = .ok options :=
    exists_of_isOk (by decide +kernel)
  obtain ⟨s, builds⟩ : ∃ s, built load = .ok s := exists_of_isOk (by decide +kernel)
  refine ⟨⟨config, loads, configs _ loads⟩, ⟨config', loads', overridden _ _ loads'⟩,
    ⟨options, set, runs _ set⟩, ⟨s, builds, ?_⟩, ?_⟩
  · exact (scenarios files .default { file := some load, vus := some 4 } .empty
      onlyOrdinary_load).accepted s builds
  · have fails : (built broken).isOk = false := by decide +kernel
    cases result : built broken with
    | ok s =>
      rw [result] at fails
      cases fails
    | error failure =>
      exact ⟨failure, rfl, (scenarios files .default
        { file := some broken, vus := some 4 } .empty onlyOrdinary_broken).refused failure result⟩

end Accepted

/-- A timeout that is no number is accepted, and so it is not positive. -/
theorem RequestConfig.undefined_timeout_accepted :
    ∃ config, RequestConfig.load [("CHECKRUN_TIMEOUT", "nan")] = .ok config ∧
      ¬ 0 < config.timeout := by
  obtain ⟨config, loads⟩ :
      ∃ config, RequestConfig.load [("CHECKRUN_TIMEOUT", "nan")] = .ok config :=
    exists_of_isOk (by decide +kernel)
  have undefined : ∃ x, Environment.decimal [("CHECKRUN_TIMEOUT", "nan")] "CHECKRUN_TIMEOUT" 60 =
      .ok x ∧ ¬ 0 < x := ⟨Float.ofBits 0x7FF8000000000000, rfl, by decide +kernel⟩
  obtain ⟨x, read, notPositive⟩ := undefined
  obtain ⟨-, timed, -⟩ := RequestConfig.load_ok loads
  cases read.symm.trans timed
  exact ⟨config, loads, notPositive⟩

end Volley
