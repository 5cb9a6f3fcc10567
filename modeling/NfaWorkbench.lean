import NfaWorkbench.Automaton
import NfaWorkbench.Bus
import NfaWorkbench.CommandLine.Arguments
import NfaWorkbench.CommandLine.Program
import NfaWorkbench.CommandLine.Request
import NfaWorkbench.Document.Inflow
import NfaWorkbench.Document.Lines
import NfaWorkbench.Document.Outflow
import NfaWorkbench.Document.Reader
import NfaWorkbench.Document.Record
import NfaWorkbench.Document.Writer
import NfaWorkbench.Editor.Command
import NfaWorkbench.Editor.Session
import NfaWorkbench.Editor.Terminal
import NfaWorkbench.Files.Automata
import NfaWorkbench.Files.Directory
import NfaWorkbench.Files.IoFault
import NfaWorkbench.Graph.Basic
import NfaWorkbench.Graph.Change
import NfaWorkbench.Graph.Edit
import NfaWorkbench.Graph.Error
import NfaWorkbench.Graph.Naming
import NfaWorkbench.Graph.Position
import NfaWorkbench.Jobs
import NfaWorkbench.Json.Basic
import NfaWorkbench.Json.Printer
import NfaWorkbench.Json.Reader
import NfaWorkbench.Json.Text
import NfaWorkbench.Main
import NfaWorkbench.Notification
import NfaWorkbench.Proofs.Announcement
import NfaWorkbench.Proofs.BusHistory
import NfaWorkbench.Proofs.Delivery
import NfaWorkbench.Proofs.Document.Breaking
import NfaWorkbench.Proofs.Document.Canonical
import NfaWorkbench.Proofs.Document.Encoding
import NfaWorkbench.Proofs.Document.FirstError
import NfaWorkbench.Proofs.Document.Grammar
import NfaWorkbench.Proofs.Document.Language
import NfaWorkbench.Proofs.Document.Layout
import NfaWorkbench.Proofs.Document.Lines
import NfaWorkbench.Proofs.Document.Order
import NfaWorkbench.Proofs.Document.Reading
import NfaWorkbench.Proofs.Document.Refusal
import NfaWorkbench.Proofs.Document.Tokens
import NfaWorkbench.Proofs.Document.Writing
import NfaWorkbench.Proofs.Editing
import NfaWorkbench.Proofs.Editor.Commands
import NfaWorkbench.Proofs.Editor.Documents
import NfaWorkbench.Proofs.Editor.Listening
import NfaWorkbench.Proofs.Editor.Reachable
import NfaWorkbench.Proofs.Editor.Refusal
import NfaWorkbench.Proofs.Editor.Remembering
import NfaWorkbench.Proofs.Editor.Saving
import NfaWorkbench.Proofs.Editor.Simulating
import NfaWorkbench.Proofs.Editor.Undoing
import NfaWorkbench.Proofs.Editor.Watching
import NfaWorkbench.Proofs.Editor.Words
import NfaWorkbench.Proofs.Files
import NfaWorkbench.Proofs.Graph.Consistency
import NfaWorkbench.Proofs.Graph.Creation
import NfaWorkbench.Proofs.Graph.Leaving
import NfaWorkbench.Proofs.Graph.Lifetime
import NfaWorkbench.Proofs.Graph.Refusal
import NfaWorkbench.Proofs.Graph.Removal
import NfaWorkbench.Proofs.Handles
import NfaWorkbench.Proofs.Hearing
import NfaWorkbench.Proofs.Jobs
import NfaWorkbench.Proofs.Json.RoundTrip
import NfaWorkbench.Proofs.Json.Scalar
import NfaWorkbench.Proofs.Outcome
import NfaWorkbench.Proofs.Reachable
import NfaWorkbench.Proofs.Refusal
import NfaWorkbench.Proofs.Registry
import NfaWorkbench.Proofs.Removal
import NfaWorkbench.Proofs.Running
import NfaWorkbench.Proofs.Sharing
import NfaWorkbench.Proofs.Simulation.Closure
import NfaWorkbench.Proofs.Simulation.Flips
import NfaWorkbench.Proofs.Simulation.Frame
import NfaWorkbench.Proofs.Simulation.Language
import NfaWorkbench.Proofs.Simulation.Looking
import NfaWorkbench.Proofs.Simulation.Marking
import NfaWorkbench.Proofs.Simulation.Operations
import NfaWorkbench.Proofs.Simulation.Passes
import NfaWorkbench.Proofs.Snapshot.Codec
import NfaWorkbench.Proofs.Snapshot.Complete
import NfaWorkbench.Proofs.Snapshot.Edit
import NfaWorkbench.Proofs.Snapshot.Entry
import NfaWorkbench.Proofs.Snapshot.Locality
import NfaWorkbench.Proofs.Snapshot.Removal
import NfaWorkbench.Proofs.Snapshot.Requests
import NfaWorkbench.Proofs.Snapshot.Restore
import NfaWorkbench.Proofs.Snapshot.Runs
import NfaWorkbench.Proofs.Snapshot.Simulation
import NfaWorkbench.Proofs.Snapshot.Status
import NfaWorkbench.Proofs.Snapshot.Valid
import NfaWorkbench.Proofs.Undoing
import NfaWorkbench.Proofs.Workspace.Handles
import NfaWorkbench.Proofs.Workspace.Logs
import NfaWorkbench.Proofs.Workspace.Run
import NfaWorkbench.Registry
import NfaWorkbench.Report
import NfaWorkbench.Settings.Basic
import NfaWorkbench.Settings.File
import NfaWorkbench.Simulation
import NfaWorkbench.Snapshot.Basic
import NfaWorkbench.Snapshot.Codec
import NfaWorkbench.Text.Blank
import NfaWorkbench.Text.Cluster
import NfaWorkbench.Text.Cluster.Classes
import NfaWorkbench.Text.Decimal
import NfaWorkbench.Text.Hexadecimal
import NfaWorkbench.Text.Letter
import NfaWorkbench.Text.LowerCase
import NfaWorkbench.Text.Numeral
import NfaWorkbench.Text.Palette
import NfaWorkbench.Text.Pieces
import NfaWorkbench.Text.Ranges
import NfaWorkbench.Workspace
import NfaWorkbench.Yaml.Block
import NfaWorkbench.Yaml.Cursor
import NfaWorkbench.Yaml.Node
import NfaWorkbench.Yaml.Reader
import NfaWorkbench.Yaml.Scalar
import NfaWorkbench.Yaml.Token
import NfaWorkbench.Yaml.Tokens
import NfaWorkbench.Yaml.Writer
