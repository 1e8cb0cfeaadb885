import Volley.Proofs.Scenario.Loading

/-!
# Building a scenario from a file

The scenario to run is loaded into an empty registry, whatever was registered before. So the
outcome does not depend on what was loaded earlier, and afterwards the registry holds just the
scenarios that this execution of the file has declared, also when the file fails half way. Options
of the command line replace those of the scenario that runs, not those of the scenario in the
registry.

## Main definitions

- `Loader.Executes`: the statements of a file that are executed.
- `Choice.Replaces`: options that are replaced one by one.
- `Loader.Builds`: what building comes to.

## Main results

- `Loads.registers`: what loading leaves in the registry.
- `replaces_of_overridden`: options from the command line are taken as they are.
- `build_independent`: building from a file depends on no registry.
-/

namespace Volley

namespace Loader

variable {α : Type}

/-! ### What is registered -/

/-- The statements of a file that are executed: none if it is not read, all if it runs to its end,
and else those before the one that raises. -/
inductive Executes (files : Files α) (p : Path) (registry : Registry α) :
    List (Statement α) → Prop
  | unread (unread : files.isFile p = false ∨ p.suffix ≠ ".py") : Executes files p registry []
  | whole {statements : List (Statement α)} {x : Execution α} (ending : p.suffix = ".py")
      (source : Source files p statements) (runs : Execution.Runs { registry } statements x) :
      Executes files p registry statements
  | part {before after : List (Statement α)} {statement : Statement α} {x : Execution α}
      {fault : Fault} (ending : p.suffix = ".py")
      (source : Source files p (before ++ statement :: after))
      (runs : Execution.Runs { registry } before x)
      (raises : Execution.Raises x statement fault) : Executes files p registry before

section Registered

variable {files : Files α} {p : Path} {name : Option String} {registry : Registry α}

/-- A file that stops has executed the statements before. -/
theorem executes_of_stops {statements : List (Statement α)} {x : Execution α} {fault : Fault}
    (ending : p.suffix = ".py") (source : Source files p statements)
    (stops : Execution.Stops { registry } statements x fault) :
    ∃ executed, Executes files p registry executed ∧
      x.registry = registry.append (Execution.declared executed) := by
  obtain ⟨runs, raises⟩ := stops
  exact ⟨_, .part ending source runs raises, runs.registers⟩

/-- Loading registers what the executed statements declare, and nothing else. -/
theorem Loads.registers {loaded : Loaded α} (loads : Loads files p name registry loaded) :
    ∃ executed, Executes files p registry executed ∧
      loaded.registry = registry.append (Execution.declared executed) := by
  -- A file that is not read registers nothing.
  have nothing : registry = registry.append (Execution.declared []) := by
    simp [Execution.declared]
  cases loads with
  | tooLong long whole =>
    have missing : files.isFile p = false := by simp [FileTree.isFile, FileTree.entry?, long]
    exact ⟨[], .unread (.inl missing), nothing⟩
  | missing fits missing => exact ⟨[], .unread (.inl missing), nothing⟩
  | foreign file ending => exact ⟨[], .unread (.inr ending), nothing⟩
  | failed ending source stops => exact executes_of_stops ending source stops
  | broken ending source stops => exact executes_of_stops ending source stops
  | refused ending source runs => exact ⟨_, .whole ending source runs, runs.registers⟩
  | chosen ending source runs => exact ⟨_, .whole ending source runs, runs.registers⟩

end Registered

/-! ### Options -/

/-- Every option is the one that is chosen, or else the one that is replaced. -/
structure Choice.Replaces (choice : Choice) (base options : RunOptions Float) : Prop where
  vus : (options.vus : Int) = choice.vus.getD base.vus
  iterations : (options.iterations : Int) = choice.iterations.getD base.iterations
  maxDuration : options.maxDuration = choice.maxDuration.getD base.maxDuration

theorem replaces_of_overridden {choice : Choice} {base options : RunOptions Float}
    (made : base.overridden choice.vus choice.iterations choice.maxDuration = .ok options) :
    -- Whoever passes the three checks has counts above zero, which are the same as natural
    -- numbers.
    choice.Replaces base options := by
  unfold RunOptions.overridden RunOptions.make at made
  split at made
  · cases made
  next vus_ =>
    split at made
    · cases made
    next iterations_ =>
      split at made
      · cases made
      · cases made
        exact ⟨Int.toNat_of_nonneg (by omega), Int.toNat_of_nonneg (by omega), rfl⟩

/-! ### Building -/

/-- What building from a file comes to. The registry and the remarks are those of loading. -/
inductive Builds (files : Files α) (p : Path) (choice : Choice) : Built α → Prop
  | unloaded {loaded : Loaded α} {failure : Failure}
      (loads : Loads files p choice.name .empty loaded) (failed : loaded.result = .error failure) :
      Builds files p choice
        { result := .error (.load failure)
          registry := loaded.registry, entries := loaded.entries }
  | outOfRange {loaded : Loaded α} {s : Scenario α} {e : ConfigError}
      (loads : Loads files p choice.name .empty loaded) (found : loaded.result = .ok s)
      (refuses : s.options.overridden choice.vus choice.iterations choice.maxDuration = .error e) :
      Builds files p choice
        { result := .error (.config e), registry := loaded.registry, entries := loaded.entries }
  /-- Name and body are those of the scenario that was loaded. -/
  | built {loaded : Loaded α} {s : Scenario α} {options : RunOptions Float}
      (loads : Loads files p choice.name .empty loaded) (found : loaded.result = .ok s)
      (made : s.options.overridden choice.vus choice.iterations choice.maxDuration = .ok options)
      (replaces : choice.Replaces s.options options) :
      Builds files p choice
        { result := .ok { name := s.name, body := s.body, options }
          registry := loaded.registry, entries := loaded.entries }

section Building

variable {files : Files α} (builtIn : RunOptions Float → Scenario α)
  (env : Except ConfigError (RunOptions Float)) (choice : Choice)

theorem builds_build {p : Path} (given : choice.file = some p) (scripted : Scripted files p)
    (registry : Registry α) : Builds files p choice (build files builtIn env choice registry) := by
  -- It is loaded into an empty registry, whatever was registered before.
  obtain ⟨loaded, loads⟩ := exists_loads scripted choice.name .empty
  have loads_ : load files p choice.name .empty = loaded := load_of_loads loads
  -- By what was loaded, and by what comes of its options.
  cases found : loaded.result with
  | error failure =>
    have built : build files builtIn env choice registry =
        { result := .error (.load failure)
          registry := loaded.registry, entries := loaded.entries } := by
      simp [build, given, loads_, found]
    rw [built]
    exact .unloaded loads found
  | ok s =>
    cases made : s.options.overridden choice.vus choice.iterations choice.maxDuration with
    | error e =>
      have built : build files builtIn env choice registry =
          { result := .error (.config e)
            registry := loaded.registry, entries := loaded.entries } := by
        simp [build, given, loads_, found, withOptions, made]
      rw [built]
      exact .outOfRange loads found made
    | ok options =>
      have built : build files builtIn env choice registry =
          { result := .ok { name := s.name, body := s.body, options }
            registry := loaded.registry, entries := loaded.entries } := by
        simp [build, given, loads_, found, withOptions, made]
      rw [built]
      exact .built loads found made (replaces_of_overridden made)

theorem Builds.registers {p : Path} {built : Built α} (builds : Builds files p choice built) :
    ∃ executed, Executes files p .empty executed ∧
      built.registry = Registry.empty.append (Execution.declared executed) := by
  cases builds with
  | unloaded loads => exact loads.registers
  | outOfRange loads => exact loads.registers
  | built loads => exact loads.registers

end Building

/-- What is built from a file does not depend on what was registered before, and neither does the
registry afterwards: it holds what the executed statements of the file have declared, with the
options of its declaration. Without a file the registry is left alone. -/
theorem build_independent (files : Files α) (builtIn : RunOptions Float → Scenario α)
    (env : Except ConfigError (RunOptions Float)) (choice : Choice) :
    (∀ p, choice.file = some p → ∃ built,
      (∀ registry, build files builtIn env choice registry = built) ∧
      (Scripted files p → Builds files p choice built ∧
        ∃ executed, Executes files p .empty executed ∧
          built.registry = Registry.empty.append (Execution.declared executed))) ∧
    (choice.file = none → ∀ registry,
      (build files builtIn env choice registry).registry = registry ∧
      ∀ other, (build files builtIn env choice other).result =
        (build files builtIn env choice registry).result) := by
  constructor
  · intro p given
    refine ⟨build files builtIn env choice .empty, ?_, ?_⟩
    · intro registry
      simp only [build, given]
    · intro scripted
      have builds := builds_build builtIn env choice given scripted .empty
      exact ⟨builds, builds.registers⟩
  · intro none_ registry
    -- Without a file the options of the environment decide, and no registry is looked at.
    cases env <;> simp [build, none_]

namespace Sample

/-- Four virtual users instead of the one that the file asks for. -/
def choice : Choice := { file := some path, vus := some 4 }

/-- What is built from the sample file. -/
def built (registry : Registry Unit) : Built Unit :=
  build files (fun options => { name := "built in", body := (), options }) (.ok .default) choice
    registry

/-- The same file can be built from twice, and its scenario is registered as it was declared. -/
theorem build_independent_twice :
    built (built .empty).registry = built .empty ∧
      (∃ s, (built .empty).result = .ok s ∧ s.options.vus = 4) ∧
      (built .empty).registry.get? "Alpha" = some (scenario "Alpha") ∧
      Builds files path choice (built .empty) := by
  obtain ⟨chosen, -⟩ := build_independent files
    (fun options => { name := "built in", body := (), options }) (.ok .default) choice
  obtain ⟨outcome, same, builds⟩ := chosen path rfl
  have scripted : Scripted files path := by
    intro text found
    cases found
  refine ⟨(same _).trans (same _).symm, ⟨_, rfl, rfl⟩, rfl, ?_⟩
  rw [show built .empty = outcome from same _]
  exact (builds scripted).1

end Sample

end Loader

end Volley
