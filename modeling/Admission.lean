import Admission.Bucket
import Admission.Daemon
import Admission.Daemon.CommandLine
import Admission.Daemon.Event
import Admission.Datum
import Admission.Decimal
import Admission.Exporter
import Admission.Fault
import Admission.Floor
import Admission.Host
import Admission.Job
import Admission.Json
import Admission.Log
import Admission.Main
import Admission.Metrics
import Admission.Network
import Admission.Pool
import Admission.Processor
import Admission.Proofs.Bucket.Bursts
import Admission.Proofs.Bucket.Comparisons
import Admission.Proofs.Bucket.Exact
import Admission.Proofs.Bucket.Runs
import Admission.Proofs.Decimal
import Admission.Proofs.Floor.Deadlines
import Admission.Proofs.Floor.Forecast
import Admission.Proofs.Floor.Gate
import Admission.Proofs.Floor.Moves
import Admission.Proofs.Floor.Punctual
import Admission.Proofs.Floor.Rest
import Admission.Proofs.Floor.Runs
import Admission.Proofs.Floor.Work
import Admission.Proofs.Host.Locators
import Admission.Proofs.Host.Remainders
import Admission.Proofs.Host.Separators
import Admission.Proofs.Metrics.Exposition
import Admission.Proofs.Metrics.Series
import Admission.Proofs.Metrics.Sinks
import Admission.Proofs.Pool.Bound
import Admission.Proofs.Pool.Delivery
import Admission.Proofs.Pool.Drain
import Admission.Proofs.Pool.Slots
import Admission.Proofs.Pool.Steps
import Admission.Proofs.Pool.Traffic
import Admission.Proofs.Reader
import Admission.Proofs.Server.Accounts
import Admission.Proofs.Server.Answers
import Admission.Proofs.Server.Courses
import Admission.Proofs.Server.Crowds
import Admission.Proofs.Server.Custody
import Admission.Proofs.Server.Decisions
import Admission.Proofs.Server.Lifecycle
import Admission.Proofs.Server.Promises
import Admission.Proofs.Server.Promptness
import Admission.Proofs.Server.Requirements
import Admission.Proofs.Server.Runs
import Admission.Proofs.Server.Work
import Admission.Proofs.Settings.Fields
import Admission.Proofs.Settings.Sources
import Admission.Proofs.Settings.Spellings
import Admission.Proofs.Settings.Winners
import Admission.Proofs.Signal
import Admission.Proofs.Task.Calls
import Admission.Proofs.Task.Limits
import Admission.Proofs.Task.Meetings
import Admission.Proofs.Task.Outcomes
import Admission.Proofs.Task.Responses
import Admission.Proofs.Task.RunOut
import Admission.Proofs.Task.Time
import Admission.Proofs.Text
import Admission.Proofs.Timeline
import Admission.Proofs.Toml.Written
import Admission.Reader
import Admission.Refusal
import Admission.Response
import Admission.Server
import Admission.Server.Config
import Admission.Server.Session
import Admission.Settings
import Admission.Settings.Conversion
import Admission.Settings.Sources
import Admission.Settings.Value
import Admission.Signal
import Admission.Task
import Admission.Task.Live
import Admission.Text.Characters
import Admission.Text.Quoted
import Admission.Text.Utf8
import Admission.Timeline
import Admission.Toml.Document
import Admission.Toml.Text
import Admission.Toml.Tree
