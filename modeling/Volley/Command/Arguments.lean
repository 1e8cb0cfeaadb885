import Volley.Command.Number

/-!
# Command lines

A command line names the command `run`, with options in front of it or behind it. A long option
takes its value from behind an equals sign or from the next argument; short options may be bundled,
the last of them with its value attached. Two dashes end the options. Of an option that is given
twice the last value counts.

The line is first cut into options and positions; unknown options and missing values are refused
there. A wish for help or for the version is then granted before any value is looked at. What stands
in the place of a command, but is none, may be an option in front of it after all.

## Main definitions

- `Arguments.Flag`: the options of the command `run`.
- `Arguments.cut`: cuts a line into options and positions.
- `Arguments.Request`: what a command line asks for.
- `Arguments.parse`: reads a command line.
-/

namespace Volley

namespace Arguments

/-- The options of the command `run`, by meaning. -/
inductive Flag where
  | scenario
  | url
  | token
  | accept
  | vus
  | iterations
  | maxDuration
  | timeout
  | summaryJson
  | failOnCheckRate
  | verbose
  | version
  | help
  /-- To install or to show the completion of command lines for a shell. -/
  | completion
  deriving DecidableEq, Repr

def Flag.takesValue : Flag → Bool
  | verbose => false
  | version => false
  | help => false
  | completion => false
  | _ => true

/-- The names of options: long ones and single letters. -/
structure Names where
  long : List (String × Flag)
  short : List (Char × Flag)

def outerNames : Names where
  long := [("--version", .version), ("--help", .help), ("--install-completion", .completion),
    ("--show-completion", .completion)]
  short := [('V', .version)]

def runNames : Names where
  long := [("--scenario", .scenario), ("--url", .url), ("--token", .token), ("--accept", .accept),
    ("--vus", .vus), ("--iterations", .iterations), ("--max-duration", .maxDuration),
    ("--timeout", .timeout), ("--summary-json", .summaryJson),
    ("--fail-on-check-rate", .failOnCheckRate), ("--verbose", .verbose), ("--help", .help)]
  short := [('s', .scenario), ('a', .accept), ('u', .vus), ('i', .iterations), ('v', .verbose)]

/-- An option with its value; one that takes none has the empty text. -/
abbrev Given := List (Flag × String)

def splitValue (cs : List Char) : List Char × Option (List Char) :=
  match cs.span (· ≠ '=') with
  | (name, _ :: value) => (name, some value)
  | (name, []) => (name, none)

/-- Reads a bundle of short options. The value of the last is what follows it, or the next argument.
-/
def readBundle (names : Names) (rest : List String) : List Char → Option (Given × List String)
  | [] => some ([], rest)
  | c :: more =>
    match names.short.lookup c with
    | none => none
    | some flag =>
      if flag.takesValue then
        -- What is attached is the value; only without it the next argument is.
        match more, rest with
        | [], [] => none
        | [], value :: after => some ([(flag, value)], after)
        | _ :: _, _ => some ([(flag, String.ofList more)], rest)
      else
        (readBundle names rest more).map fun (given, after) => ((flag, "") :: given, after)

def readOption (names : Names) (arg : String) (rest : List String) :
    Option (Given × List String) :=
  let cs := arg.toList
  let (name, attached) := splitValue cs
  match names.long.lookup (String.ofList name) with
  | some flag =>
    if flag.takesValue then
      match attached, rest with
      | some value, _ => some ([(flag, String.ofList value)], rest)
      | none, value :: after => some ([(flag, value)], after)
      | none, [] => none
    else
      match attached with
      -- No value can be attached to an option that takes none.
      | some _ => none
      | none => some ([(flag, "")], rest)
  | none =>
    if cs.take 2 = ['-', '-'] then none else readBundle names rest (cs.drop 1)

def isOption (arg : String) : Bool :=
  arg.startsWith "-" && 1 < arg.length

/-- Cuts arguments into options and positions. With `interspersed` options may follow positions;
without, the first position ends the options. `fuel` bounds the number of arguments. -/
def cut (names : Names) (interspersed : Bool) :
    (fuel : Nat) → List String → Option (Given × List String)
  | 0, args => some ([], args)
  | _ + 1, [] => some ([], [])
  | fuel + 1, arg :: rest =>
    -- Everything behind two dashes is a position, also what looks like an option.
    if arg = "--" then some ([], rest)
    else if isOption arg then
      match readOption names arg rest with
      | none => none
      | some (given, after) =>
        (cut names interspersed fuel after).map fun (more, positions) => (given ++ more, positions)
    else if interspersed then
      (cut names interspersed fuel rest).map fun (given, positions) => (given, arg :: positions)
    else some ([], arg :: rest)

/-- What the command `run` is given. -/
structure Run where
  file : Option String := none
  scenario : Option String := none
  url : Option String := none
  token : Option String := none
  accept : Option String := none
  vus : Option Int := none
  iterations : Option Int := none
  maxDuration : Option Float := none
  timeout : Option Float := none
  summaryJson : Option String := none
  failOnCheckRate : Option Float := none
  verbose : Bool := false

/-- What a command line asks for. -/
inductive Request where
  | misuse
  | help
  | version
  | run (arguments : Run)

def last? (given : Given) (flag : Flag) : Option String :=
  given.reverse.lookup flag

def read? {α : Type} (given : Given) (flag : Flag) (read : String → Option α) :
    Option (Option α) :=
  match last? given flag with
  | none => some none
  | some value => (read value).map some

def positive? (text : String) : Option Int :=
  ((count? text).filter fun n => 1 ≤ n).map Int.ofNat

def path? (text : String) : Option String :=
  if text.toList.contains '\x00' then none else some text

def readRun (given : Given) (positions : List String) : Option Run := do
  let vus ← read? given .vus positive?
  let iterations ← read? given .iterations positive?
  let maxDuration ← read? given .maxDuration decimal?
  let timeout ← read? given .timeout decimal?
  let failOnCheckRate ← read? given .failOnCheckRate decimal?
  let summaryJson ← read? given .summaryJson path?
  let file ← match positions with
    | [] => some none
    | [file] => (path? file).map some
    | _ => none
  return {
    file, vus, iterations, maxDuration, timeout, summaryJson, failOnCheckRate
    scenario := last? given .scenario
    url := last? given .url
    token := last? given .token
    accept := last? given .accept
    verbose := (last? given .verbose).isSome }

def parseRun (args : List String) : Request :=
  match cut runNames true (args.length + 1) args with
  | none => .misuse
  | some (given, positions) =>
    -- Help is granted before any value is looked at.
    if (last? given .help).isSome then .help
    else match readRun given positions with
      | none => .misuse
      | some run => .run run

/-- What the options in front of a command ask for: help or the version, whichever comes first, and
else the completion. -/
def wish? (given : Given) : Option Request :=
  match given.find? fun (flag, _) => flag == .version || flag == .help with
  | some (.version, _) => some .version
  | some _ => some .help
  | none => if given.isEmpty then none else some .help

def looksLikeOption (arg : String) : Bool :=
  arg.toList.head?.any fun c => !c.isAlphanum

/-- Reads the name of a command and its arguments. One that is no command, but looks like an option,
is read as an option after all. -/
def parseCommand : List String → Request
  | [] => .misuse
  | "run" :: rest => parseRun rest
  | name :: rest =>
    if looksLikeOption name then
      match cut outerNames false (rest.length + 2) (name :: rest) with
      | none => .misuse
      | some (given, _) => (wish? given).getD .misuse
    else .misuse

def parse (args : List String) : Request :=
  match cut outerNames false (args.length + 1) args with
  | none => .misuse
  | some (given, positions) =>
    match wish? given with
    | some request => request
    | none => parseCommand positions

end Arguments

end Volley
