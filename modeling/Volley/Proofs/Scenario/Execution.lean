import Volley.Proofs.Assoc.Gather
import Volley.Scenario.Loader

/-!
# What the statements of a scenario file do

A statement does something or raises a fault, and by its kind and what is bound and registered so
far it is clear which. A file is executed to its end, or up to the first statement that raises.
Either way the registry has grown by the scenarios that the executed statements declare, and by
nothing else.

## Main definitions

- `Execution.Does`, `Execution.Raises`: one statement.
- `Execution.Runs`, `Execution.Stops`: a file that is executed to its end, and one that is not.
- `Execution.declared`: the scenarios that statements declare.

## Main results

- `step_of_does`, `step_of_raises`, `does_or_raises`: a step is what the rules of its statement say.
- `run_eq_none_iff`, `run_eq_some_iff`: so is a run.
- `Runs.registers`: the registry after a run.
-/

namespace Volley

variable {α : Type}

/-- The scenario that a declaration makes with options in range. -/
def Declaration.scenario (d : Declaration α) (options : RunOptions Float) : Scenario α :=
  { name := d.name, body := d.body, options }

namespace Registry

/-- The registry with more scenarios at its end, each under its name. -/
def append (r : Registry α) (scenarios : List (Scenario α)) : Registry α :=
  { scenarios := r.scenarios ++ scenarios.map fun s => (s.name, s) }

@[simp] theorem append_nil (r : Registry α) : r.append [] = r := by
  simp [append]

@[simp] theorem append_append (r : Registry α) (earlier later : List (Scenario α)) :
    (r.append earlier).append later = r.append (earlier ++ later) := by
  simp [append]

theorem register_of_new {r : Registry α} {s : Scenario α} (new : s.name ∉ r.scenarios.keys) :
    r.register s = .ok (r.append [s]) := by
  simp [register, get?, Assoc.find?_eq_none_iff.2 new, Assoc.set_of_notMem new, append]

theorem register_of_old {r : Registry α} {s : Scenario α} (old : s.name ∈ r.scenarios.keys) :
    r.register s = .error (.alreadyRegistered s.name) := by
  simp [register, get?, Assoc.isSome_find?_iff.2 old]

end Registry

namespace Execution

/-! ### One statement -/

/-- What a statement does when it does not raise. -/
inductive Does (x : Execution α) : Statement α → Execution α → Prop
  | declare {target : String} {d : Declaration α} {options : RunOptions Float}
      (inRange : d.options.make = .ok options) (waits : d.canWait = true)
      (new : d.name ∉ x.registry.scenarios.keys) :
      Does x (.declare target d)
        ({ x with registry := x.registry.append [d.scenario options] }.bind target
          (some (d.scenario options)))
  | define {target name : String} {o : DeclaredOptions} {options : RunOptions Float} {body : α}
      (inRange : o.make = .ok options) :
      Does x (.define target name o body) (x.bind target (some { name, body, options }))
  | copy {target source : String} {value : Option (Scenario α)}
      (bound : x.bindings.find? source = some value) :
      Does x (.copy target source) (x.bind target value)
  /-- A builtin is no scenario. -/
  | copyBuiltin {target source : String} (free : source ∉ x.bindings.keys)
      (builtin : source ∈ builtins) : Does x (.copy target source) (x.bind target none)
  | assign {target : String} : Does x (.assign target) (x.bind target none)
  | delete {target : String} (bound : target ∈ x.bindings.keys) :
      Does x (.delete target) { x with bindings := x.bindings.erase target }

/-- A statement raises a fault: options are out of range, a body cannot wait, a name is registered
already or is not bound, or the fault is raised outright. -/
inductive Raises (x : Execution α) : Statement α → Fault → Prop
  | declareOutOfRange {target : String} {d : Declaration α} {e : ConfigError}
      (outOfRange : d.options.make = .error e) :
      Raises x (.declare target d) (.ordinary "ConfigError" e.message)
  | cannotWait {target : String} {d : Declaration α} {options : RunOptions Float}
      (inRange : d.options.make = .ok options) (waits : d.canWait = false) :
      Raises x (.declare target d)
        (.ordinary "ScenarioError" (ScenarioError.bodyCannotWait d.function).message)
  | registered {target : String} {d : Declaration α} {options : RunOptions Float}
      (inRange : d.options.make = .ok options) (waits : d.canWait = true)
      (old : d.name ∈ x.registry.scenarios.keys) :
      Raises x (.declare target d)
        (.ordinary "ScenarioError" (ScenarioError.alreadyRegistered d.name).message)
  | defineOutOfRange {target name : String} {o : DeclaredOptions} {body : α} {e : ConfigError}
      (outOfRange : o.make = .error e) :
      Raises x (.define target name o body) (.ordinary "ConfigError" e.message)
  | copyUnbound {target source : String} (free : source ∉ x.bindings.keys)
      (unknown : source ∉ builtins) :
      Raises x (.copy target source) (unbound source)
  | deleteUnbound {target : String} (free : target ∉ x.bindings.keys) :
      Raises x (.delete target) (unbound target)
  | raise {fault : Fault} : Raises x (.raise fault) fault

theorem step_of_does {x y : Execution α} {statement : Statement α} (does : Does x statement y) :
    x.step statement = .ok y := by
  cases does with
  | @declare _ d options inRange waits new =>
    have registered := Registry.register_of_new (s := d.scenario options) new
    simp only [Declaration.scenario] at registered
    simp [step, Registry.declare, inRange, waits, registered, Declaration.scenario]
  | define inRange => simp [step, inRange]
  | copy bound => simp [step, bound]
  | copyBuiltin free builtin => simp [step, Assoc.find?_eq_none_iff.2 free, builtin]
  | assign => rfl
  | delete bound => simp [step, Assoc.isSome_find?_iff.2 bound]

theorem step_of_raises {x : Execution α} {statement : Statement α} {fault : Fault}
    (raises : Raises x statement fault) : x.step statement = .error fault := by
  cases raises with
  | declareOutOfRange outOfRange => simp [step, Registry.declare, outOfRange, refused]
  | cannotWait inRange waits => simp [step, Registry.declare, inRange, waits, refused]
  | @registered _ d options inRange waits old =>
    have registered := Registry.register_of_old (s := d.scenario options) old
    simp only [Declaration.scenario] at registered
    simp [step, Registry.declare, inRange, waits, registered, refused]
  | defineOutOfRange outOfRange => simp [step, outOfRange, refused]
  | copyUnbound free unknown => simp [step, Assoc.find?_eq_none_iff.2 free, unknown]
  | deleteUnbound free => simp [step, Assoc.find?_eq_none_iff.2 free]
  | raise => rfl

/-- Every statement does something or raises a fault. -/
theorem does_or_raises (x : Execution α) (statement : Statement α) :
    (∃ y, Does x statement y) ∨ ∃ fault, Raises x statement fault := by
  cases statement with
  -- The checks of a declaration, in the order in which they are made.
  | declare target d =>
    cases inRange : d.options.make with
    | error e => exact .inr ⟨_, .declareOutOfRange inRange⟩
    | ok options =>
      cases waits : d.canWait with
      | false => exact .inr ⟨_, .cannotWait inRange waits⟩
      | true =>
        by_cases old : d.name ∈ x.registry.scenarios.keys
        · exact .inr ⟨_, .registered inRange waits old⟩
        · exact .inl ⟨_, .declare inRange waits old⟩
  | define target name o body =>
    cases inRange : o.make with
    | error e => exact .inr ⟨_, .defineOutOfRange inRange⟩
    | ok options => exact .inl ⟨_, .define inRange⟩
  | copy target source =>
    cases bound : x.bindings.find? source with
    | none =>
      -- A name that is not bound may still be that of a builtin.
      have free := Assoc.find?_eq_none_iff.1 bound
      by_cases builtin : source ∈ builtins
      · exact .inl ⟨_, .copyBuiltin free builtin⟩
      · exact .inr ⟨_, .copyUnbound free builtin⟩
    | some value => exact .inl ⟨_, .copy bound⟩
  | assign target => exact .inl ⟨_, .assign⟩
  | delete target =>
    by_cases bound : target ∈ x.bindings.keys
    · exact .inl ⟨_, .delete bound⟩
    · exact .inr ⟨_, .deleteUnbound bound⟩
  | raise fault => exact .inr ⟨_, .raise⟩

/-! ### A whole file -/

/-- All statements are executed, one after another. -/
inductive Runs : Execution α → List (Statement α) → Execution α → Prop
  | nil {x : Execution α} : Runs x [] x
  | cons {x y z : Execution α} {statement : Statement α} {rest : List (Statement α)}
      (does : Does x statement y) (runs : Runs y rest z) : Runs x (statement :: rest) z

/-- Statements are executed up to one that raises. -/
inductive Stops (x : Execution α) : List (Statement α) → Execution α → Fault → Prop
  | at {before after : List (Statement α)} {statement : Statement α} {y : Execution α}
      {fault : Fault} (runs : Runs x before y) (raises : Raises y statement fault) :
      Stops x (before ++ statement :: after) y fault

/-- What comes after statements that were executed starts from where they ended. -/
theorem run_of_runs {x y : Execution α} {statements : List (Statement α)}
    (runs : Runs x statements y) (after : List (Statement α)) :
    x.run (statements ++ after) = y.run after := by
  induction runs with
  | nil => rfl
  | cons does _ ih =>
    rw [List.cons_append, run, step_of_does does]
    exact ih

theorem run_of_stops {x y : Execution α} {statements : List (Statement α)} {fault : Fault}
    (stops : Stops x statements y fault) : x.run statements = (y, some fault) := by
  obtain ⟨runs, raises⟩ := stops
  rw [run_of_runs runs, run, step_of_raises raises]

/-- A file is executed to its end or up to a statement that raises. -/
theorem runs_or_stops (x : Execution α) (statements : List (Statement α)) :
    (∃ y, Runs x statements y) ∨ ∃ y fault, Stops x statements y fault := by
  induction statements generalizing x with
  | nil => exact .inl ⟨x, .nil⟩
  | cons statement rest ih =>
    rcases does_or_raises x statement with ⟨y, does⟩ | ⟨fault, raises⟩
    · rcases ih y with ⟨z, runs⟩ | ⟨z, fault, ⟨runs, raises⟩⟩
      · exact .inl ⟨z, .cons does runs⟩
      · exact .inr ⟨z, fault, .at (.cons does runs) raises⟩
    · have first : Stops x ([] ++ statement :: rest) x fault := .at .nil raises
      exact .inr ⟨x, fault, first⟩

theorem run_eq_none_iff {x y : Execution α} {statements : List (Statement α)} :
    x.run statements = (y, none) ↔ Runs x statements y := by
  have finished {z : Execution α} (runs : Runs x statements z) : x.run statements = (z, none) := by
    simpa [run] using run_of_runs runs []
  constructor
  · intro ran
    rcases runs_or_stops x statements with ⟨z, runs⟩ | ⟨z, fault, stops⟩
    · -- What the run comes to is one thing, so it cannot both end and stop.
      cases (finished runs).symm.trans ran
      exact runs
    · cases (run_of_stops stops).symm.trans ran
  · exact finished

theorem run_eq_some_iff {x y : Execution α} {statements : List (Statement α)} {fault : Fault} :
    x.run statements = (y, some fault) ↔ Stops x statements y fault := by
  constructor
  · intro ran
    rcases runs_or_stops x statements with ⟨z, runs⟩ | ⟨z, fault, stops⟩
    · cases (run_eq_none_iff.2 runs).symm.trans ran
    · cases (run_of_stops stops).symm.trans ran
      exact stops
  · exact run_of_stops

/-! ### The registry -/

/-- The scenarios that statements declare, each with the options of its declaration. -/
def declared (statements : List (Statement α)) : List (Scenario α) :=
  statements.filterMap fun
    | .declare _ d => d.options.make.toOption.map d.scenario
    | _ => none

/-- A file registers the scenarios that it declares, in order, and nothing else. -/
theorem Runs.registers {x y : Execution α} {statements : List (Statement α)}
    (runs : Runs x statements y) : y.registry = x.registry.append (declared statements) := by
  induction runs with
  | nil => simp [declared]
  | cons does _ ih =>
    rw [ih]
    -- Only a declaration changes the registry.
    cases does with
    | declare inRange => simp [declared, Execution.bind, inRange, Except.toOption]
    | define | copy | copyBuiltin | assign | delete => simp [declared, Execution.bind]

end Execution

end Volley
