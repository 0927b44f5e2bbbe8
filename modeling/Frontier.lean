import Frontier.Unicode.Fold
import Frontier.Unicode.Category
import Frontier.Unicode.Script
import Frontier.Unicode.Property
import Frontier.Text.OsText
import Frontier.Regex.Expr
import Frontier.Regex.Atom
import Frontier.Regex.Bracket
import Frontier.Regex.Reading
import Frontier.Regex.Basic
import Frontier.Regex.Meaning
import Frontier.Failure
import Frontier.Filter.Kind
import Frontier.Filter.NamePattern
import Frontier.CommandLine.Configuration
import Frontier.CommandLine.FindStyle
import Frontier.CommandLine.Help
import Frontier.CommandLine.Parse
import Frontier.Dispatcher.Gate
import Frontier.Dispatcher.Queue
import Frontier.Dispatcher.Shared
import Frontier.Dispatcher.Draining
import Frontier.Dispatcher.Machine
import Frontier.Dispatcher.Schedule
import Frontier.Dispatcher.Script
import Frontier.Dispatcher.Session
import Frontier.Search.Disk
import Frontier.Search.Observer
import Frontier.Search.Visited
import Frontier.Search.Volume
import Frontier.Search.Basic
import Frontier.CommandLine.Program
import Frontier.Main
import Frontier.Proofs.Dispatcher.Frame
import Frontier.Proofs.Dispatcher.Turn
import Frontier.Proofs.Dispatcher.Inversion
import Frontier.Proofs.Dispatcher.Operations
import Frontier.Proofs.Dispatcher.Calls
import Frontier.Proofs.Dispatcher.Threads
import Frontier.Proofs.Dispatcher.Ownership
import Frontier.Proofs.Dispatcher.Pending
import Frontier.Proofs.Dispatcher.Lives
import Frontier.Proofs.Dispatcher.Completion
import Frontier.Proofs.Dispatcher.Stranding
import Frontier.Proofs.Dispatcher.Rest
import Frontier.Proofs.Dispatcher.Termination
import Frontier.Proofs.Dispatcher.Closing
import Frontier.Proofs.Dispatcher.LatestFirst
import Frontier.Proofs.Dispatcher.Wakeups
import Frontier.Proofs.Dispatcher.Handles
import Frontier.Proofs.Dispatcher.Joining
import Frontier.Proofs.Dispatcher.LastHandle
import Frontier.Proofs.Dispatcher.FirstInFirstOut
import Frontier.Proofs.Dispatcher.Lifecycle
import Frontier.Proofs.Dispatcher.WorkLoop
import Frontier.Proofs.Dispatcher.OneByOne
import Frontier.Proofs.Dispatcher.Departing
import Frontier.Proofs.Dispatcher.Snapshots
import Frontier.Proofs.Dispatcher.InFlight
import Frontier.Proofs.Dispatcher.Rounds
import Frontier.Proofs.Search.PathJoin
import Frontier.Proofs.Search.Plain
import Frontier.Proofs.Search.Walk
import Frontier.Proofs.Search.Notes
import Frontier.Proofs.Search.Sequential
import Frontier.Proofs.Search.Conduct
import Frontier.Proofs.Search.Agreement
import Frontier.Proofs.Search.Effort
import Frontier.Proofs.Search.Return
import Frontier.Proofs.Search.Refinement
import Frontier.Proofs.Search.Course
import Frontier.Proofs.Search.Acts
import Frontier.Proofs.Search.Interruption
import Frontier.Proofs.Search.Burden
import Frontier.Proofs.Search.Completed
import Frontier.Proofs.Search.Ways
import Frontier.Proofs.Search.Locations
import Frontier.Proofs.Search.Resolution
import Frontier.Proofs.Search.TidyVolume
import Frontier.Proofs.Search.Dues
import Frontier.Proofs.Search.Claims
import Frontier.Proofs.Search.Ledger
import Frontier.Proofs.Search.Reordering
import Frontier.Proofs.Search.Keys
import Frontier.Proofs.Search.Exhaustive
import Frontier.Proofs.Search.DepthLimit
import Frontier.Proofs.Search.Shadows
import Frontier.Proofs.Search.JobCount
import Frontier.Proofs.Search.Reported
import Frontier.Proofs.Search.OneSlot
import Frontier.Proofs.Search.Levels
import Frontier.Proofs.Search.BreadthFirst
import Frontier.Proofs.Regex.Search
import Frontier.Proofs.Regex.Readers
import Frontier.Proofs.Regex.Escapes
import Frontier.Proofs.Regex.Openings
import Frontier.Proofs.Regex.Classes
import Frontier.Proofs.Regex.Splicing
import Frontier.Proofs.Regex.Bounds
import Frontier.Proofs.Unicode.Folding
import Frontier.Proofs.CommandLine.RoundTrip
import Frontier.Proofs.CommandLine.FlagValue
import Frontier.Proofs.CommandLine.FlagRuns
import Frontier.Proofs.Filter.Glob
import Frontier.Proofs.Filter.WholeName
import Frontier.Proofs.Search.Validation
import Frontier.Proofs.Search.Verdicts
import Frontier.Proofs.Search.Panicking
import Frontier.Proofs.Search.Accounts
import Frontier.Proofs.Search.Conservation
import Frontier.Proofs.Search.Identities
