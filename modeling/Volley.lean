import Volley.Assoc
import Volley.Calendar
import Volley.Check
import Volley.Command
import Volley.Command.Arguments
import Volley.Command.Number
import Volley.Config.Environment
import Volley.Config.Error
import Volley.Config.Settings
import Volley.Config.StatusSet
import Volley.Console
import Volley.Console.Plain
import Volley.Decimal.Binary64
import Volley.Decimal.Digits
import Volley.Decimal.Fixed
import Volley.Decimal.Limit
import Volley.Decimal.Rounding
import Volley.Decimal.Shortest
import Volley.Fault
import Volley.FileTree
import Volley.FileTree.Path
import Volley.Heap
import Volley.Http.Client
import Volley.Http.Transport
import Volley.Http.Visit
import Volley.Journal
import Volley.Json
import Volley.Logging
import Volley.Main
import Volley.Metric
import Volley.Metric.Collector
import Volley.Metric.Export
import Volley.Metric.Latency
import Volley.Metric.Summary
import Volley.Pool
import Volley.Pool.Errand
import Volley.Pool.Shutdown
import Volley.Pool.Warden
import Volley.Proofs.Assoc.Gather
import Volley.Proofs.Assoc.Overlay
import Volley.Proofs.Calendar.Years
import Volley.Proofs.Check.Evaluation
import Volley.Proofs.Command.ExitStatus
import Volley.Proofs.Config.Overrides
import Volley.Proofs.Config.Statuses
import Volley.Proofs.Config.Valid
import Volley.Proofs.Decimal.Binary64
import Volley.Proofs.FileTree.Writing
import Volley.Proofs.Heap.Ordered
import Volley.Proofs.Http.Call
import Volley.Proofs.Http.Conclusion
import Volley.Proofs.Http.Fate
import Volley.Proofs.Http.Headers
import Volley.Proofs.Http.Life
import Volley.Proofs.Json.Compact
import Volley.Proofs.Json.Lexer
import Volley.Proofs.Json.Number
import Volley.Proofs.Json.Reader
import Volley.Proofs.Logging.Setups
import Volley.Proofs.Metric.Export
import Volley.Proofs.Metric.Percentile
import Volley.Proofs.Metric.Records
import Volley.Proofs.Metric.Tally
import Volley.Proofs.Pool.Clock
import Volley.Proofs.Pool.Image
import Volley.Proofs.Pool.News
import Volley.Proofs.Pool.Schedule
import Volley.Proofs.Pool.View
import Volley.Proofs.Pool.Progress
import Volley.Proofs.Pool.Trail
import Volley.Proofs.Pool.Warden
import Volley.Proofs.Pool.Watch
import Volley.Proofs.Run.Accounts
import Volley.Proofs.Run.Advance
import Volley.Proofs.Run.Balance
import Volley.Proofs.Run.Books
import Volley.Proofs.Run.Commands
import Volley.Proofs.Run.Course
import Volley.Proofs.Run.Duties
import Volley.Proofs.Run.Failures
import Volley.Proofs.Run.Headers
import Volley.Proofs.Run.Laps
import Volley.Proofs.Run.Ledger
import Volley.Proofs.Run.Limits
import Volley.Proofs.Run.Mirroring
import Volley.Proofs.Run.Numbers
import Volley.Proofs.Run.Pace
import Volley.Proofs.Run.Passing
import Volley.Proofs.Run.Sequence
import Volley.Proofs.Run.Sharing
import Volley.Proofs.Run.Steady
import Volley.Proofs.Run.Stopping
import Volley.Proofs.Run.Tenure
import Volley.Proofs.Run.Turns
import Volley.Proofs.Run.Undisturbed
import Volley.Proofs.Scalar.Exact
import Volley.Proofs.Scenario.Building
import Volley.Proofs.Scenario.Execution
import Volley.Proofs.Scenario.Loading
import Volley.Proofs.Scenario.Products
import Volley.Proofs.Scenario.ProductsFile
import Volley.Proofs.Scenario.ProductsRun
import Volley.Proofs.Scenario.Registering
import Volley.Proofs.Scenario.Script
import Volley.Proofs.Text.Numeral
import Volley.Run.Director
import Volley.Run.Iteration
import Volley.Run.Lifecycle
import Volley.Run.Solo
import Volley.Run.VirtualUser
import Volley.Run.World
import Volley.Scalar
import Volley.Scalar.Rational
import Volley.Scenario.Body
import Volley.Scenario.Error
import Volley.Scenario.Loader
import Volley.Scenario.Products
import Volley.Scenario.ProductsFile
import Volley.Scenario.Registry
import Volley.Scenario.Routine
import Volley.Scenario.Script
import Volley.Text.Blank
import Volley.Text.Digit
import Volley.Text.Numeral
import Volley.Text.Printable
import Volley.Text.Quoted
