import Blockflow.Block.Catalog
import Blockflow.Block.Field
import Blockflow.Block.Kind
import Blockflow.Block.Port
import Blockflow.Block.Registry
import Blockflow.Command.Arguments
import Blockflow.Command.Desk
import Blockflow.Command.Run
import Blockflow.Command.Terminal
import Blockflow.Decimal.Binary
import Blockflow.Decimal.Shortest
import Blockflow.Decimal.Text
import Blockflow.Dialogue
import Blockflow.Dict
import Blockflow.File
import Blockflow.GitHub.Base64
import Blockflow.GitHub.Client
import Blockflow.Http
import Blockflow.Http.Address
import Blockflow.Http.Wire
import Blockflow.Ids
import Blockflow.Json.Basic
import Blockflow.Json.Reader
import Blockflow.Json.Record
import Blockflow.Json.Skim
import Blockflow.Json.Writer
import Blockflow.Pattern.Basic
import Blockflow.Pattern.Class
import Blockflow.Pattern.Escape
import Blockflow.Pattern.Normal
import Blockflow.Pattern.Reader
import Blockflow.Pattern.Room
import Blockflow.Pipeline.Compile
import Blockflow.Pipeline.Document
import Blockflow.Pipeline.Names
import Blockflow.Pipeline.Plan
import Blockflow.Pipeline.Steps
import Blockflow.Pipeline.Triggers
import Blockflow.Proofs.Dict
import Blockflow.Proofs.Graph.Order
import Blockflow.Proofs.Graph.Reach
import Blockflow.Proofs.Pipeline.Keys
import Blockflow.Proofs.Pipeline.Plan
import Blockflow.Remote.Call
import Blockflow.Remote.Deploy
import Blockflow.Remote.Error
import Blockflow.Remote.Follower
import Blockflow.Remote.Options
import Blockflow.Remote.Rehearsal
import Blockflow.Remote.Scene
import Blockflow.Remote.Session
import Blockflow.Remote.Stage
import Blockflow.Remote.Store
import Blockflow.Remote.Tracker
import Blockflow.Run.Execution
import Blockflow.Run.Health
import Blockflow.Run.Reduce
import Blockflow.Run.Snapshot
import Blockflow.Run.Status
import Blockflow.Text.Blank
import Blockflow.Text.CharSet
import Blockflow.Text.Digits
import Blockflow.Text.Folding
import Blockflow.Text.Pieces
import Blockflow.Text.Property
import Blockflow.Text.Property.Age
import Blockflow.Text.Property.Binary
import Blockflow.Text.Property.Break
import Blockflow.Text.Property.Category
import Blockflow.Text.Property.Script
import Blockflow.Text.Quoted
import Blockflow.Text.Utf8
import Blockflow.Timestamp
import Blockflow.Workflow.Basic
import Blockflow.Workflow.Channel
import Blockflow.Workflow.Draft
import Blockflow.Workflow.Editor
import Blockflow.Workflow.Event
import Blockflow.Workflow.Graph
import Blockflow.Workflow.History
import Blockflow.Workflow.Problem
import Blockflow.Workflow.Validation
import Blockflow.Yaml.Basic
import Blockflow.Yaml.Cursor
import Blockflow.Yaml.Folded
import Blockflow.Yaml.Node
import Blockflow.Yaml.Reader
import Blockflow.Yaml.Scalar
import Blockflow.Yaml.Token
import Blockflow.Yaml.Writer
import Blockflow.Main
import Blockflow.Proofs.Pipeline.Document
import Blockflow.Proofs.Pipeline.Jobs
import Blockflow.Proofs.Pipeline.Storage
import Blockflow.Proofs.Pipeline.Settings
import Blockflow.Proofs.Yaml.Writable
import Blockflow.Proofs.Pipeline.Success
import Blockflow.Proofs.Run.Reduce
import Blockflow.Proofs.Run.Polling
import Blockflow.Proofs.Ids
import Blockflow.Proofs.Workflow.Change
import Blockflow.Proofs.Workflow.Coherence
import Blockflow.Proofs.Workflow.Editing
import Blockflow.Proofs.Block.Acceptance
import Blockflow.Proofs.Pattern.Room
import Blockflow.Proofs.Block.Catalog
import Blockflow.Proofs.Block.Registration
import Blockflow.Proofs.Workflow.Problems
import Blockflow.Proofs.Pipeline.StepNames
import Blockflow.Proofs.Pipeline.Markers
import Blockflow.Proofs.Pipeline.NameMap
import Blockflow.Proofs.Run.Attribution
import Blockflow.Proofs.Run.Progress
import Blockflow.Proofs.Run.Consistency
import Blockflow.Proofs.Pipeline.Placement
import Blockflow.Proofs.Workflow.First
import Blockflow.Proofs.Workflow.Timeline
import Blockflow.Proofs.Workflow.Replay
import Blockflow.Proofs.Pipeline.Shape
import Blockflow.Proofs.Remote.Session
import Blockflow.Proofs.Remote.Store
import Blockflow.Proofs.Remote.World
import Blockflow.Proofs.Remote.Deploy
import Blockflow.Proofs.Remote.Sharing
import Blockflow.Proofs.Workflow.Telling
import Blockflow.Proofs.Remote.Editing
import Blockflow.Proofs.Remote.Tracking
import Blockflow.Proofs.Remote.Replies
import Blockflow.Proofs.Remote.Following
import Blockflow.Proofs.Dialogue
import Blockflow.Proofs.Command.Requests
import Blockflow.Proofs.Graph.Countdown
import Blockflow.Proofs.Pipeline.StepOrder
import Blockflow.Proofs.Pipeline.Grouping
import Blockflow.Proofs.Json.Canonical
import Blockflow.Proofs.Json.Record
import Blockflow.Proofs.Workflow.Loading
import Blockflow.Proofs.Command.Watching
import Blockflow.Proofs.Workflow.Findings
import Blockflow.Proofs.Pipeline.JobKeys
import Blockflow.Proofs.Pipeline.MatrixJobs
import Blockflow.Proofs.Workflow.Reordering
import Blockflow.Proofs.Workflow.Connecting
import Blockflow.Proofs.Timestamp
import Blockflow.Proofs.Run.Listing
import Blockflow.Proofs.Remote.Health
import Blockflow.Proofs.Remote.Deploying
import Blockflow.Proofs.Command.Dispatching
import Blockflow.Proofs.Yaml.Keys
import Blockflow.Proofs.Pipeline.Filters
import Blockflow.Proofs.Pipeline.Events
import Blockflow.Proofs.Pipeline.Admission
import Blockflow.Proofs.GitHub.Paging
import Blockflow.Proofs.Remote.Races
import Blockflow.Proofs.Pipeline.Nulls
import Blockflow.Proofs.Pipeline.Exports
import Blockflow.Proofs.Pipeline.StoredYaml
import Blockflow.Proofs.Remote.FileNames
import Blockflow.Proofs.Remote.Backoff
import Blockflow.Proofs.Workflow.Patching
import Blockflow.Proofs.GitHub.Base64
import Blockflow.Proofs.GitHub.Answers
import Blockflow.Proofs.GitHub.Content
import Blockflow.Proofs.GitHub.Interruptions
