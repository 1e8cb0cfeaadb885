import Volley.Decimal.Fixed
import Volley.Decimal.Limit
import Volley.Metric.Summary

/-!
# The console

What a command shows to its user, as a sequence of events with their markup: lines of text, a status
while something is going on, a panel, tables.

## Main definitions

- `Console.Event`.
- `Console.checksTable`, `Console.totalsTable`: the tables of a summary.
- `Console.ofResult`: what is shown of a result. Nothing is shown of one with a number that passes
  its limit.
-/

namespace Volley

namespace Console

open Decimal

/-- On which side the cells of a column stand. -/
inductive Side where
  | left
  | right
  deriving DecidableEq, Repr

def Side.name : Side → String
  | left => "left"
  | right => "right"

/-- Something that is shown. -/
inductive Event where
  | text (markup : String)
  | status (text : String)
  | panel (title border text : String)
  | table (title : String) (columns : List (String × Side)) (rows : List (List String))
  deriving DecidableEq, Repr

def percent (rate : Float) : String :=
  fixed 2 (rate * 100) ++ "%"

def checkRow (t : Tally) : Except NumberError (List String) := do
  let mark := if t.fails = 0 then "[green]✓[/green]" else "[red]✗[/red]"
  let passes ← written t.passes
  let fails ← written t.fails
  let rate ← t.passRate
  return [mark ++ " " ++ t.name, passes, fails, percent rate]

def checksTable (s : Summary Float) : Except NumberError Event :=
  (s.checks.values.mapM checkRow).map fun rows =>
    .table "Checks" [("Check", .left), ("Passed", .right), ("Failed", .right), ("Pass %", .right)]
      rows

def counted (name : String) (n : Int) : Except NumberError String :=
  (written n).map fun digits => name ++ ": " ++ digits

/-- A row of counts with their names, separated by commas; there is none without counts. -/
def countsRow (heading : String) (counts : List (Except NumberError String)) :
    Except NumberError (List (List String)) :=
  if counts.isEmpty then .ok []
  else (counts.mapM id).map fun texts => [[heading, String.intercalate ", " texts]]

/-- The rows of the totals. Statuses and error types have a row only if there are any. -/
def totalsRows (r : RunResult Float) (s : Summary Float) :
    Except NumberError (List (List String)) := do
  let vus ← written r.vus
  let iterations ← written s.iterations
  let planned ← written r.iterationsPlanned
  let errors ← written s.iterationErrors
  let passed ← written s.checksPassed
  let failed ← written s.checksFailed
  let requests ← written s.totalRequests
  let statuses ← countsRow "Statuses" (List.map (fun (code, n) => do
    counted (← written code) n) s.statusCounts)
  let types ← countsRow "Error Types" (List.map (fun (name, n) => counted name n) s.errorsByType)
  return [["Scenario", r.scenarioName],
    ["VUs", vus],
    ["Duration", fixed 1 r.duration ++ "s"],
    ["Iterations", iterations ++ "/" ++ planned],
    ["Iteration Errors", errors],
    ["Checks Passed", passed],
    ["Checks Failed", failed],
    ["HTTP Requests", requests],
    ["Requests/sec", fixed 1 s.requestsPerSecond],
    ["Avg Latency", fixed 1 s.latency.avg ++ "ms"],
    ["p90 Latency", fixed 1 s.latency.p90 ++ "ms"],
    ["p95 Latency", fixed 1 s.latency.p95 ++ "ms"]] ++ statuses ++ types

def totalsTable (r : RunResult Float) (s : Summary Float) : Except NumberError Event :=
  (totalsRows r s).map fun rows =>
    .table "Run Complete" [("Metric", .left), ("Value", .right)] rows

/-- What is shown of a result; nothing without a summary. -/
def ofResult (r : RunResult Float) : Except NumberError (List Event) :=
  match r.summary with
  | none => .ok []
  | some s => do
    let checks ← if s.checks.isEmpty then pure [] else (checksTable s).map fun table => [table]
    let totals ← totalsTable r s
    return checks ++ [totals] ++
      (if r.interrupted then
        [.text "[yellow]Run stopped before all iterations finished.[/yellow]"] else [])

end Console

end Volley
