import Orchestration.SortedMap
import Orchestration.Text.Basic
import Orchestration.Text.Printable
import Orchestration.Number.Layout
import Orchestration.Number.Numeral
import Orchestration.Json.Printer
import Orchestration.Json.Document
import Orchestration.Json.Record
import Orchestration.Named
import Orchestration.Error
import Orchestration.Parameter.HostValue
import Orchestration.Parameter.Basic
import Orchestration.Parameter.Map
import Orchestration.Calendar.Moment
import Orchestration.Calendar.Schedule
import Orchestration.Gateway.Version
import Orchestration.Gateway.Requirement
import Orchestration.Relation
import Orchestration.Task.Statement
import Orchestration.Gateway.Record
import Orchestration.Task.Options
import Orchestration.Workflow.Defaults
import Orchestration.Workflow.Setting
import Orchestration.Gateway.Request
import Orchestration.Gateway.Server
import Orchestration.Task.Switch
import Orchestration.Resource.Basic
import Orchestration.Resource.Folder
import Orchestration.Resource.Plugin
import Orchestration.Task.Definition
import Orchestration.Task.HttpCall
import Orchestration.Task.Kind
import Orchestration.Session.Building
import Orchestration.Session.Document
import Orchestration.Session.State
import Orchestration.Session.Submission
import Orchestration.Workflow.Draft
import Orchestration.Json.Basic
import Orchestration.Session.Registry
import Orchestration.Session.Report
import Orchestration.Url.Percent
import Orchestration.Url.Punycode
import Orchestration.Url.Basic
import Orchestration.Bridge.Client
import Orchestration.Proofs.Relation
import Orchestration.Proofs.Session.Access
import Orchestration.Proofs.Session.Run
import Orchestration.Proofs.Session.Action
import Orchestration.Proofs.Session.Document
import Orchestration.Proofs.Session.Change
import Orchestration.Proofs.Session.Link
import Orchestration.Proofs.Session.Move
import Orchestration.Proofs.Session.Perform
import Orchestration.Proofs.Session.Ownership
import Orchestration.Proofs.Session.Dependency
import Orchestration.Proofs.Session.Neighbour
import Orchestration.Proofs.Json.Access
import Orchestration.Proofs.Session.Submitted
import Orchestration.Proofs.Session.Commuting
import Orchestration.Proofs.Session.Startable
import Orchestration.Proofs.Gateway.Lookup
import Orchestration.Proofs.Session.Alike
import Orchestration.Proofs.Session.Transparent
import Orchestration.Proofs.Gateway.Progress
import Orchestration.Proofs.Session.Phases
import Orchestration.Proofs.Gateway.Assignment
import Orchestration.Proofs.Gateway.History
import Orchestration.Proofs.Session.Building
import Orchestration.Proofs.Session.Keeping
import Orchestration.Proofs.Session.Naming
import Orchestration.Proofs.Session.Switching
import Orchestration.Proofs.Session.Asking
import Orchestration.Proofs.Session.Transfer
import Orchestration.Proofs.Session.Consulting
import Orchestration.Proofs.Session.Outcome
import Orchestration.Proofs.Session.Publishing
import Orchestration.Proofs.Session.Validation
import Orchestration.Proofs.Session.Resolution
import Orchestration.Proofs.Session.Missing
import Orchestration.Proofs.Session.Materialization
import Orchestration.Proofs.Number.Numeral
import Orchestration.Proofs.Number.Rounding
import Orchestration.Proofs.Parameter.Conversion
import Orchestration.Proofs.Parameter.Inference
import Orchestration.Proofs.Parameter.Raw
import Orchestration.Proofs.Session.Frame
import Orchestration.Proofs.Session.Carrying
import Orchestration.Proofs.Parameter.Map
import Orchestration.Proofs.Session.Insertion
import Orchestration.Proofs.Session.TaskParameters
import Orchestration.Proofs.Task.Statement
import Orchestration.Proofs.Number.Nearest
import Orchestration.Proofs.Number.Shortest
import Orchestration.Proofs.Number.Reading
import Orchestration.Proofs.Json.NumberParts
import Orchestration.Proofs.Json.Numeral
import Orchestration.Proofs.Json.Scan
import Orchestration.Proofs.Json.Words
import Orchestration.Proofs.Json.Document
import Orchestration.Proofs.Session.Resemblance
import Orchestration.Proofs.Session.Words
import Orchestration.Proofs.Session.Agreement
import Orchestration.Proofs.Text.Field
import Orchestration.Proofs.Calendar.Crontab
import Orchestration.Proofs.Calendar.Pattern
import Orchestration.Proofs.Calendar.Moment
import Orchestration.Proofs.Task.Timeout
import Orchestration.Proofs.Resource.Inquiry
import Orchestration.Proofs.Session.Branching
import Orchestration.Proofs.Session.Script
import Orchestration.Proofs.Bridge.Reply
import Orchestration.Proofs.Text.Split
import Orchestration.Proofs.Unicode.Ascii
import Orchestration.Proofs.Url.Percent
import Orchestration.Proofs.Url.Path
import Orchestration.Proofs.Url.Domain
import Orchestration.Proofs.Url.Address
import Orchestration.Proofs.Url.Host
import Orchestration.Proofs.Url.Authority
import Orchestration.Proofs.Url.Reading
import Orchestration.Proofs.Bridge.Address
import Orchestration.Proofs.Gateway.Rejection
import Orchestration.Proofs.Gateway.Upload
import Orchestration.Proofs.Session.Nesting
import Orchestration.Proofs.Json.Record
import Orchestration.Proofs.Record
import Orchestration.Proofs.Gateway.Requirement
import Orchestration.Proofs.Relation.Identity
