import Volley.Config.Environment
import Volley.Fault
import Volley.FileTree
import Volley.Journal
import Volley.Scenario.Registry

/-!
# Scenario files

A scenario file is a sequence of statements that bind variables. Executing it registers the
scenarios that it declares; loading it then picks one from the variables that hold a scenario at the
end.

## Main definitions

- `Statement`: what a scenario file consists of.
- `Execution.run`: executes statements on a registry.
- `Loader.load`: loads a scenario from a file, by name if it holds several.
- `Loader.build`: the scenario to run, with options from the command line.
-/

namespace Volley

/-- A statement of a scenario file with bodies of type `α`. -/
inductive Statement (α : Type) where
  /-- Declares a scenario, which registers it, and binds it. -/
  | declare (target : String) (declaration : Declaration α)
  | define (target name : String) (options : DeclaredOptions) (body : α)
  | copy (target source : String)
  | assign (target : String)
  | delete (target : String)
  | raise (fault : Fault)

/-- Variables in order of their binding, with the scenario that each of them holds, if it holds one.
-/
abbrev Bindings (α : Type) := Assoc String (Option (Scenario α))

namespace Execution

/-- The variables that every file finds bound when its first statement is executed. -/
def imported {α : Type} : Bindings α :=
  ["__name__", "__doc__", "__package__", "__loader__", "__spec__", "__file__", "__cached__",
    "__builtins__"].map fun name => (name, none)

/-- The names that have a value, though no scenario, where no variable is bound to them. -/
def builtins : List String :=
  ["ArithmeticError", "AssertionError", "AttributeError", "BaseException", "BaseExceptionGroup",
    "BlockingIOError", "BrokenPipeError", "BufferError", "BytesWarning", "ChildProcessError",
    "ConnectionAbortedError", "ConnectionError", "ConnectionRefusedError", "ConnectionResetError",
    "DeprecationWarning", "EOFError", "Ellipsis", "EncodingWarning", "EnvironmentError",
    "Exception", "ExceptionGroup", "False", "FileExistsError", "FileNotFoundError",
    "FloatingPointError", "FutureWarning", "GeneratorExit", "IOError", "ImportError",
    "ImportWarning", "IndentationError", "IndexError", "InterruptedError", "IsADirectoryError",
    "KeyError", "KeyboardInterrupt", "LookupError", "MemoryError", "ModuleNotFoundError",
    "NameError", "None", "NotADirectoryError", "NotImplemented", "NotImplementedError", "OSError",
    "OverflowError", "PendingDeprecationWarning", "PermissionError", "ProcessLookupError",
    "RecursionError", "ReferenceError", "ResourceWarning", "RuntimeError", "RuntimeWarning",
    "StopAsyncIteration", "StopIteration", "SyntaxError", "SyntaxWarning", "SystemError",
    "SystemExit", "TabError", "TimeoutError", "True", "TypeError", "UnboundLocalError",
    "UnicodeDecodeError", "UnicodeEncodeError", "UnicodeError", "UnicodeTranslateError",
    "UnicodeWarning", "UserWarning", "ValueError", "Warning", "ZeroDivisionError",
    "__build_class__", "__debug__", "__doc__", "__import__", "__loader__", "__name__",
    "__package__", "__spec__", "abs", "aiter", "all", "anext", "any", "ascii", "bin", "bool",
    "breakpoint", "bytearray", "bytes", "callable", "chr", "classmethod", "compile", "complex",
    "copyright", "credits", "delattr", "dict", "dir", "divmod", "enumerate", "eval", "exec", "exit",
    "filter", "float", "format", "frozenset", "getattr", "globals", "hasattr", "hash", "help",
    "hex", "id", "input", "int", "isinstance", "issubclass", "iter", "len", "license", "list",
    "locals", "map", "max", "memoryview", "min", "next", "object", "oct", "open", "ord", "pow",
    "print", "property", "quit", "range", "repr", "reversed", "round", "set", "setattr", "slice",
    "sorted", "staticmethod", "str", "sum", "super", "tuple", "type", "vars", "zip"]

end Execution

/-- A scenario file under execution: its bindings, and the registry. -/
structure Execution (α : Type) where
  bindings : Bindings α := Execution.imported
  registry : Registry α

namespace Execution

variable {α : Type}

def unbound (name : String) : Fault :=
  .ordinary "NameError" ("name '" ++ name ++ "' is not defined")

def refused (error : DefinitionError) : Fault :=
  match error with
  | .config e => .ordinary "ConfigError" e.message
  | .scenario e => .ordinary "ScenarioError" e.message

def bind (x : Execution α) (name : String) (value : Option (Scenario α)) : Execution α :=
  { x with bindings := x.bindings.set name value }

def step (x : Execution α) : Statement α → Except Fault (Execution α)
  | .declare name declaration =>
    match x.registry.declare declaration with
    | .error e => .error (refused e)
    | .ok (scenario, registry) => .ok ({ x with registry }.bind name (some scenario))
  | .define name scenarioName options body =>
    match options.make with
    | .error e => .error (refused (.config e))
    | .ok options => .ok (x.bind name (some { name := scenarioName, body, options }))
  | .copy name source =>
    match x.bindings.find? source with
    | some value => .ok (x.bind name value)
    | none =>
      if builtins.contains source then .ok (x.bind name none) else .error (unbound source)
  | .assign name => .ok (x.bind name none)
  | .delete name =>
    -- Only names that the file has bound can be deleted, not those that have a value anyway.
    if (x.bindings.find? name).isSome then
      .ok { x with bindings := x.bindings.erase name }
    else .error (unbound name)
  | .raise fault => .error fault

def run (x : Execution α) : List (Statement α) → Execution α × Option Fault
  | [] => (x, none)
  | statement :: rest =>
    match x.step statement with
    -- What was bound and registered before the fault stays.
    | .error fault => (x, some fault)
    | .ok next => run next rest

end Execution

namespace Loader

variable {α : Type}

/-- The files that hold scenarios with bodies of type `α`. -/
abbrev Files (α : Type) := FileTree (List (Statement α))

/-- Why loading failed. -/
inductive Failure where
  | scenario (error : ScenarioError)
  | file (error : FileError)
  /-- The file raised a fault that loading does not hold up. -/
  | fault (fault : Fault)

/-- What loading did: the scenario, the registry afterwards and the remarks. -/
structure Loaded (α : Type) where
  result : Except Failure (Scenario α)
  registry : Registry α
  entries : List (Journal.Entry Float) := []

/-- The scenarios that variables hold, by name; of two of one name the one bound later counts. -/
def byName (bindings : Bindings α) : Assoc String (Scenario α) :=
  Assoc.ofList (bindings.values.filterMap fun value => value.map fun s => (s.name, s))

def sorted (names : List String) : List String :=
  names.mergeSort fun a b => decide (a ≤ b)

/-- Picks a scenario from those of a file; a remark is made when it is the only one. -/
def pick (path : String) (scenarios : Assoc String (Scenario α)) (name : Option String) :
    Except ScenarioError (Scenario α × List (Journal.Entry Float)) :=
  if scenarios.isEmpty then .error (.noScenario path)
  else match name with
    | some wanted =>
      match scenarios.find? wanted with
      | some s => .ok (s, [])
      | none => .error (.notInFile wanted path (sorted scenarios.keys))
    | none =>
      match scenarios with
      | [(_, s)] => .ok (s, [.scenarioLoaded s.name path])
      | _ => .error (.ambiguous path (sorted scenarios.keys))

/-- Executes the statements of a file and picks a scenario. -/
def loadStatements (path : String) (statements : List (Statement α)) (name : Option String)
    (registry : Registry α) : Loaded α :=
  match ({ registry } : Execution α).run statements with
  | (x, some fault) =>
    -- Ordinary faults are reported as the file's; the others end the program.
    { result := .error (if fault.isOrdinary then .scenario (.executionFailed path fault.text)
        else .fault fault)
      registry := x.registry }
  | (x, none) =>
    match pick path (byName x.bindings) name with
    | .error e => { result := .error (.scenario e), registry := x.registry }
    | .ok (s, entries) => { result := .ok s, registry := x.registry, entries }

def statements? (files : Files α) (p : Path) : Option (List (Statement α)) :=
  match files.entry? p with
  | some (.scenarios statements) => some statements
  -- A file with a text that is no scenario file declares nothing.
  | some (.text _) => some []
  | _ => none

def load (files : Files α) (p : Path) (name : Option String) (registry : Registry α) : Loaded α :=
  -- The length of a path is looked at first, unless it cannot be a path at all.
  if files.locate p = .tooLong ∧ ¬ p.hasNull then
    { result := .error (.file (.nameTooLong p.text)), registry }
  else match statements? files p with
  | none => { result := .error (.scenario (.fileNotFound p.text)), registry }
  | some statements =>
    -- The suffix matters only for a file that is there.
    if p.suffix ≠ ".py" then { result := .error (.scenario (.notScenarioFile p.text)), registry }
    else loadStatements p.text statements name registry

/-- Which scenario to run and with which options. -/
structure Choice where
  file : Option Path := none
  name : Option String := none
  vus : Option Int := none
  iterations : Option Int := none
  maxDuration : Option Float := none

/-- Why a scenario cannot be built. -/
inductive BuildFailure where
  | config (error : ConfigError)
  | load (failure : Failure)

/-- What building did. -/
structure Built (α : Type) where
  result : Except BuildFailure (Scenario α)
  registry : Registry α
  entries : List (Journal.Entry Float) := []

/-- A scenario with options replaced by those of a choice. -/
def withOptions (choice : Choice) (s : Scenario α) : Except BuildFailure (Scenario α) :=
  match s.options.overridden choice.vus choice.iterations choice.maxDuration with
  | .error e => .error (.config e)
  | .ok options => .ok { s with options }

/-- The scenario to run: the one chosen from a file, after the registry has been cleared, or else
`builtIn` with the options of the environment. -/
def build (files : Files α) (builtIn : RunOptions Float → Scenario α)
    (env : Except ConfigError (RunOptions Float)) (choice : Choice) (registry : Registry α) :
    Built α :=
  match choice.file with
  | none =>
    match env with
    | .error e => { result := .error (.config e), registry }
    | .ok options => { result := withOptions choice (builtIn options), registry }
  | some p =>
    -- Every file is loaded with a registry of its own.
    let loaded := load files p choice.name .empty
    { result := match loaded.result with
        | .error failure => .error (.load failure)
        | .ok s => withOptions choice s
      registry := loaded.registry
      entries := loaded.entries }

end Loader

end Volley
