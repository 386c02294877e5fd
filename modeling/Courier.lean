import Courier.Article.Download
import Courier.Article.Page
import Courier.Cache.Expiring
import Courier.Cache.FileLookup
import Courier.Command.Libraries
import Courier.Command.Log
import Courier.Command.Options
import Courier.Command.Order
import Courier.Command.Session
import Courier.Config.Basic
import Courier.Config.Reader
import Courier.Config.Written
import Courier.Digest.Sha256
import Courier.Disk.Save
import Courier.Disk.Source
import Courier.Document
import Courier.Error
import Courier.FileTree
import Courier.Json.Parser
import Courier.Json.Printer
import Courier.Link
import Courier.Main
import Courier.Path
import Courier.Progress
import Courier.Regex.Basic
import Courier.Regex.Bracket
import Courier.Regex.Escape
import Courier.Regex.Flags
import Courier.Regex.Parser
import Courier.Regex.Search
import Courier.Retry
import Courier.Rule.Basic
import Courier.Rule.Compiled
import Courier.Rule.Lookup
import Courier.Sandbox.Activity
import Courier.Sandbox.Answer
import Courier.Sandbox.Console
import Courier.Sandbox.Gather
import Courier.Sandbox.Line
import Courier.Sandbox.Machine
import Courier.Sandbox.Script
import Courier.Sandbox.Sink
import Courier.Sandbox.World
import Courier.Scheduler.Limiter
import Courier.Scheduler.Queue
import Courier.Scheduler.State
import Courier.Sniff.Kinds
import Courier.Sniff.Sign
import Courier.Storage.Basic
import Courier.Storage.Kind
import Courier.Storage.Registry
import Courier.Task.Basic
import Courier.Text.Decimal
import Courier.Text.Hex
import Courier.Text.Percent
import Courier.Text.Quoted
import Courier.Text.Reader
import Courier.Toml.Parser
import Courier.Toml.Scalar
import Courier.Toml.Tree
import Courier.Transfer.Job
import Courier.Transfer.Naming
import Courier.Transfer.Reader
import Courier.Transfer.Router
import Courier.Transfer.Run
import Courier.Transfer.Words
import Courier.Unicode.Age
import Courier.Unicode.Break
import Courier.Unicode.CaseFold
import Courier.Unicode.Category
import Courier.Unicode.Encoded
import Courier.Unicode.Property
import Courier.Unicode.Script
import Courier.Unicode.Table
import Courier.Url.Host
import Courier.Url.Parser
import Courier.Url.Path
import Courier.Url.Punycode
import Courier.Proofs.Queue.InUse
import Courier.Proofs.Queue.Cancellation
import Courier.Proofs.Queue.Order
import Courier.Proofs.Scheduler.Run
import Courier.Proofs.Scheduler.Notification
import Courier.Proofs.Scheduler.Outcomes
import Courier.Proofs.Scheduler.Cancellation
import Courier.Proofs.Scheduler.Permits
import Courier.Proofs.Scheduler.Order
import Courier.Proofs.Scheduler.Underway
import Courier.Proofs.Job.Trace
import Courier.Proofs.Job.Cancellation
import Courier.Proofs.Transfer.Routing
import Courier.Proofs.Retry.Attempts
import Courier.Proofs.Transfer.Parts
import Courier.Proofs.Transfer.Reading
import Courier.Proofs.Transfer.ByteLaw
import Courier.Proofs.FileTree.Writing
import Courier.Proofs.Transfer.Depot
import Courier.Proofs.Transfer.Ways
import Courier.Proofs.Transfer.Delivery
import Courier.Proofs.Transfer.Cancellation
import Courier.Proofs.Path.Course
import Courier.Proofs.Path.Cleaning
import Courier.Proofs.Storage.Confinement
import Courier.Proofs.Cache.Answers
import Courier.Proofs.FileTree.Sparing
import Courier.Proofs.Disk.Saving
import Courier.Proofs.Path.Name
import Courier.Proofs.Path.MadeUp
import Courier.Proofs.FileTree.Standing
import Courier.Proofs.FileTree.Sight
import Courier.Proofs.Job.Meets
import Courier.Proofs.Url.Segments
import Courier.Proofs.Article.Naming
import Courier.Proofs.Article.Crowd
import Courier.Proofs.Article.Orderly
import Courier.Proofs.Article.Progress
import Courier.Proofs.Article.Saving
import Courier.Proofs.Article.Leftovers
import Courier.Proofs.Sandbox.Removal
import Courier.Proofs.Transfer.Asking
import Courier.Proofs.Transfer.Disposal
import Courier.Proofs.Transfer.Tidy
import Courier.Proofs.Sandbox.Play
import Courier.Proofs.Sandbox.Showing
import Courier.Proofs.Sandbox.Gathering
import Courier.Proofs.Crew.Outside
import Courier.Proofs.Crew.Shadow
import Courier.Proofs.Crew.InTurn
import Courier.Proofs.Crew.Run
import Courier.Proofs.Crew.Schedule
import Courier.Proofs.Config.Validation
import Courier.Proofs.Config.Agreement
import Courier.Proofs.Storage.Lookup
import Courier.Proofs.Storage.Loading
import Courier.Proofs.Transfer.AnySource
import Courier.Proofs.Transfer.Copying
import Courier.Proofs.Transfer.Completion
import Courier.Proofs.Transfer.Cadence
import Courier.Proofs.Retry.Calls
import Courier.Proofs.Retry.LateCancellation
import Courier.Proofs.Transfer.Fetching
import Courier.Proofs.Transfer.Requests
import Courier.Proofs.Cache.History
import Courier.Proofs.Transfer.CacheNames
import Courier.Proofs.Task.Source
import Courier.Proofs.Scheduler.Reach
import Courier.Proofs.Transfer.Width
import Courier.Proofs.Transfer.Spacing
import Courier.Proofs.Sandbox.Sources
import Courier.Proofs.Transfer.Storing
import Courier.Proofs.Transfer.Supply
