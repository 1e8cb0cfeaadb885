import Volley.FileTree
import Volley.Journal
import Volley.Json
import Volley.Metric.Summary

/-!
# Export of a result

A result as a JSON value and as the text of a summary file. Besides its own fields the summary shows
the totals of its checks, and every check its pass rate; status codes become keys by their decimal
digits.

## Main definitions

- `RunResult.toJson`: the value.
- `RunResult.fileText`, `RunResult.write`: the text of a summary file, and writing it; `WriteError`
  says why that fails.
-/

namespace Volley

open Decimal (NumberError)

/-- Why a result cannot be written. -/
inductive WriteError where
  | file (error : FileError)
  | number (error : NumberError)
  deriving DecidableEq, Repr

def WriteError.message : WriteError → String
  | file error => error.message
  | number error => error.message

def Tally.toJson (t : Tally) : Except NumberError Json :=
  t.passRate.map fun rate =>
    .object [("name", .text t.name), ("passes", .int t.passes), ("fails", .int t.fails),
      ("pass_rate", .float rate)]

def Tally.entriesToJson : List (String × Tally) → Except NumberError (List (String × Json))
  | [] => .ok []
  | (label, t) :: rest =>
    match t.toJson with
    | .error e => .error e
    | .ok value => (entriesToJson rest).map fun others => (label, value) :: others

/-- Every field of a summary, then the totals of its checks. -/
def Summary.toJson (s : Summary Float) : Except NumberError Json :=
  (Tally.entriesToJson s.checks).map fun checks => .object [
    ("elapsed_seconds", .float s.elapsed),
    ("iterations", .int s.iterations),
    ("iteration_errors", .int s.iterationErrors),
    ("total_requests", .int s.totalRequests),
    ("request_errors", .int s.requestErrors),
    ("requests_per_second", .float s.requestsPerSecond),
    ("latency_min", .float s.latency.min),
    ("latency_max", .float s.latency.max),
    ("latency_avg", .float s.latency.avg),
    ("latency_p50", .float s.latency.p50),
    ("latency_p90", .float s.latency.p90),
    ("latency_p95", .float s.latency.p95),
    ("latency_p99", .float s.latency.p99),
    ("status_counts", .object (List.map (fun (code, n) => (Decimal.integer code, .int n))
      s.statusCounts)),
    ("errors_by_type", .object (List.map (fun (name, n) => (name, .int n)) s.errorsByType)),
    ("checks", .object checks),
    ("checks_passed", .int s.checksPassed),
    ("checks_failed", .int s.checksFailed)]

namespace RunResult

/-- A result as a value, with this value for its summary. -/
def toJsonWith (r : RunResult Float) (summary : Json) : Json :=
  .object [
    ("scenario_name", .text r.scenarioName),
    ("vus", .int r.vus),
    ("iterations_planned", .int r.iterationsPlanned),
    ("start_time", .float r.startTime),
    ("end_time", .float r.endTime),
    ("duration_seconds", .float r.duration),
    ("interrupted", .bool r.interrupted),
    ("summary", summary)]

def toJson (r : RunResult Float) : Except NumberError Json :=
  match r.summary with
  | none => .ok (r.toJsonWith .null)
  | some s => s.toJson.map r.toJsonWith

def fileText (r : RunResult Float) : Except NumberError String :=
  match r.toJson with
  | .error e => .error e
  -- A count may have more digits than can be written.
  | .ok value => if value.isWritable then .ok (value.pretty ++ "\n") else .error .tooManyDigits

/-- Writes a result to a summary file, after its folders have been made; the remark tells where it
went. -/
def write {α : Type} (r : RunResult Float) (files : FileTree α) (path : Path) :
    Except WriteError (FileTree α × Journal.Entry Float) :=
  -- The folders stay made also if the result cannot be written.
  match files.makeFolders path.parent with
  | .error e => .error (.file e)
  | .ok made =>
    match r.fileText with
    | .error e => .error (.number e)
    | .ok text =>
      match made.write path text with
      | .error e => .error (.file e)
      | .ok written => .ok (written, .summaryWritten path.text)

end RunResult

end Volley
