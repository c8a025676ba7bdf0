import GatedFlow.Approval.Desk
import GatedFlow.Approval.Json
import GatedFlow.Approval.Policy
import GatedFlow.Approval.Record
import GatedFlow.Approval.Request
import GatedFlow.Config.Basic
import GatedFlow.Config.Environment
import GatedFlow.Config.Json
import GatedFlow.Edits.Basic
import GatedFlow.Edits.Command
import GatedFlow.Edits.Interleaving
import GatedFlow.Edits.Json
import GatedFlow.Edits.Operation
import GatedFlow.Expression.Error
import GatedFlow.Expression.Eval
import GatedFlow.Expression.Json
import GatedFlow.Expression.Lexer
import GatedFlow.Expression.Parser
import GatedFlow.Expression.Token
import GatedFlow.Expression.Tree
import GatedFlow.FlowError
import GatedFlow.Gate.Condition
import GatedFlow.Graph.Basic
import GatedFlow.Graph.Description
import GatedFlow.Graph.Draft
import GatedFlow.Graph.Node
import GatedFlow.Graph.Router
import GatedFlow.Graph.Violation
import GatedFlow.Json.Layout
import GatedFlow.Json.Reader
import GatedFlow.Json.Text
import GatedFlow.Json.Value
import GatedFlow.Ledger.Change
import GatedFlow.Ledger.Json
import GatedFlow.Number.Double
import GatedFlow.Number.Shortest
import GatedFlow.Number.Word
import GatedFlow.Observer.Event
import GatedFlow.Observer.Json
import GatedFlow.Observer.Registry
import GatedFlow.Pattern.Basic
import GatedFlow.Pattern.CharSet
import GatedFlow.Pattern.Engine
import GatedFlow.Pattern.Reader
import GatedFlow.Pattern.Tree
import GatedFlow.Predicate
import GatedFlow.Program
import GatedFlow.Proofs.Approval.Acts
import GatedFlow.Proofs.Approval.Business
import GatedFlow.Proofs.Approval.Connected
import GatedFlow.Proofs.Approval.Decided
import GatedFlow.Proofs.Approval.Earlier
import GatedFlow.Proofs.Approval.Expiry
import GatedFlow.Proofs.Approval.Growth
import GatedFlow.Proofs.Approval.Isolation
import GatedFlow.Proofs.Approval.Lateness
import GatedFlow.Proofs.Approval.Notices
import GatedFlow.Proofs.Approval.Reachable
import GatedFlow.Proofs.Edits.Advance
import GatedFlow.Proofs.Edits.Atomic
import GatedFlow.Proofs.Edits.Checkpoints
import GatedFlow.Proofs.Edits.Composition
import GatedFlow.Proofs.Edits.Contract
import GatedFlow.Proofs.Edits.Deletion
import GatedFlow.Proofs.Edits.Effect
import GatedFlow.Proofs.Edits.Fields
import GatedFlow.Proofs.Edits.Footprint
import GatedFlow.Proofs.Edits.Keys
import GatedFlow.Proofs.Edits.Ledger
import GatedFlow.Proofs.Edits.Mutation
import GatedFlow.Proofs.Edits.Schema
import GatedFlow.Proofs.Edits.Version
import GatedFlow.Proofs.Expression.Coherence
import GatedFlow.Proofs.Expression.Completeness
import GatedFlow.Proofs.Expression.Dependence
import GatedFlow.Proofs.Expression.Depth
import GatedFlow.Proofs.Expression.Equality
import GatedFlow.Proofs.Expression.Fields
import GatedFlow.Proofs.Expression.Grammar
import GatedFlow.Proofs.Expression.Height
import GatedFlow.Proofs.Expression.Integers
import GatedFlow.Proofs.Expression.Keys
import GatedFlow.Proofs.Expression.Language
import GatedFlow.Proofs.Expression.Nesting
import GatedFlow.Proofs.Expression.Soundness
import GatedFlow.Proofs.Expression.Splitting
import GatedFlow.Proofs.Gate.Combination
import GatedFlow.Proofs.Gate.Factories
import GatedFlow.Proofs.Graph.Built
import GatedFlow.Proofs.Graph.Drafts
import GatedFlow.Proofs.Graph.Indexes
import GatedFlow.Proofs.Graph.Routing
import GatedFlow.Proofs.Json.Layout
import GatedFlow.Proofs.Json.ReadBack
import GatedFlow.Proofs.Ledger.Reload
import GatedFlow.Proofs.Ledger.Replay
import GatedFlow.Proofs.Number.Rounding
import GatedFlow.Proofs.Observer.Merging
import GatedFlow.Proofs.Observer.Shared
import GatedFlow.Proofs.Observer.View
import GatedFlow.Proofs.Predicate.Asking
import GatedFlow.Proofs.Predicate.Replace
import GatedFlow.Proofs.Program.Among
import GatedFlow.Proofs.Program.Contract
import GatedFlow.Proofs.Program.Simulation
import GatedFlow.Proofs.Program.Trace
import GatedFlow.Proofs.Run.Apart
import GatedFlow.Proofs.Run.Books
import GatedFlow.Proofs.Run.Calls
import GatedFlow.Proofs.Run.Charges
import GatedFlow.Proofs.Run.Declared
import GatedFlow.Proofs.Run.Drive
import GatedFlow.Proofs.Run.Earlier
import GatedFlow.Proofs.Run.Edits
import GatedFlow.Proofs.Run.Entries
import GatedFlow.Proofs.Run.Evaluations
import GatedFlow.Proofs.Run.Failures
import GatedFlow.Proofs.Run.Fold
import GatedFlow.Proofs.Run.Frontier
import GatedFlow.Proofs.Run.Isolation
import GatedFlow.Proofs.Run.Limit
import GatedFlow.Proofs.Run.Meanwhile
import GatedFlow.Proofs.Run.Mirror
import GatedFlow.Proofs.Run.Notices
import GatedFlow.Proofs.Run.Parts
import GatedFlow.Proofs.Run.Pause
import GatedFlow.Proofs.Run.Quiet
import GatedFlow.Proofs.Run.Refusal
import GatedFlow.Proofs.Run.Requests
import GatedFlow.Proofs.Run.Rounds
import GatedFlow.Proofs.Run.Stops
import GatedFlow.Proofs.Run.Trace
import GatedFlow.Proofs.Run.Version
import GatedFlow.Proofs.Run.Views
import GatedFlow.Proofs.Run.Walk
import GatedFlow.Proofs.Run.Worklist
import GatedFlow.Proofs.Session.Acts
import GatedFlow.Proofs.Session.Attempts
import GatedFlow.Proofs.Session.Charges
import GatedFlow.Proofs.Session.Checkpoints
import GatedFlow.Proofs.Session.Continuing
import GatedFlow.Proofs.Session.Contract
import GatedFlow.Proofs.Session.Declared
import GatedFlow.Proofs.Session.Earlier
import GatedFlow.Proofs.Session.Entries
import GatedFlow.Proofs.Session.Failing
import GatedFlow.Proofs.Session.Growth
import GatedFlow.Proofs.Session.Isolation
import GatedFlow.Proofs.Session.Lateness
import GatedFlow.Proofs.Session.Mirror
import GatedFlow.Proofs.Session.Observers
import GatedFlow.Proofs.Session.Pausing
import GatedFlow.Proofs.Session.Reachable
import GatedFlow.Proofs.Session.Refusal
import GatedFlow.Proofs.Session.Schema
import GatedFlow.Proofs.Session.Timeouts
import GatedFlow.Proofs.Session.Views
import GatedFlow.Proofs.Session.Waits
import GatedFlow.Proofs.Session.Worklist
import GatedFlow.Proofs.State.Records
import GatedFlow.Proofs.State.Schema
import GatedFlow.Proofs.State.Version
import GatedFlow.Proofs.Store.Keys
import GatedFlow.Record
import GatedFlow.Run.Basic
import GatedFlow.Run.Call
import GatedFlow.Session.Basic
import GatedFlow.Session.Command
import GatedFlow.Session.Waiting
import GatedFlow.State.Basic
import GatedFlow.State.Path
import GatedFlow.State.Schema
import GatedFlow.State.Version
import GatedFlow.Store.Basic
import GatedFlow.Store.Error
import GatedFlow.Store.Keys
import GatedFlow.Text.Blank
import GatedFlow.Text.Category
import GatedFlow.Text.Folding
import GatedFlow.Text.Letters
import GatedFlow.Text.Lowercase
import GatedFlow.Text.Quoted
import GatedFlow.Text.Ranges
import GatedFlow.Text.Script
import GatedFlow.Text.Uuid
import GatedFlow.Time.Timestamp
