import FrameHost.Action
import FrameHost.Anchor
import FrameHost.Boot
import FrameHost.Command
import FrameHost.Config.Files
import FrameHost.Config.Load
import FrameHost.Config.Merge
import FrameHost.Creation
import FrameHost.Dispatch
import FrameHost.Document.Assignment
import FrameHost.Document.Json
import FrameHost.Document.Yaml
import FrameHost.Document.Yaml.Reader
import FrameHost.Fault
import FrameHost.Frame
import FrameHost.Handler
import FrameHost.Host
import FrameHost.Layout
import FrameHost.Log
import FrameHost.Naming
import FrameHost.Number.Binary
import FrameHost.Number.Decimal
import FrameHost.Perform
import FrameHost.Rect
import FrameHost.Registry.AnchorGraph
import FrameHost.Registry.Basic
import FrameHost.Registry.Hierarchy
import FrameHost.Registry.Inheritance
import FrameHost.Registry.Listeners
import FrameHost.Run
import FrameHost.ScriptTable
import FrameHost.Session
import FrameHost.Size
import FrameHost.Table
import FrameHost.Template
import FrameHost.Text.Blank
import FrameHost.Text.Case
import FrameHost.Text.Decode
import FrameHost.Text.Printable
import FrameHost.Text.Quoted
import FrameHost.Timer
import FrameHost.Value
import FrameHost.Value.Display
import FrameHost.Value.Entries
import FrameHost.Value.Tidy
import FrameHost.Walk
import FrameHost.Widget
import FrameHost.Proofs.Graph
import FrameHost.Proofs.Walk
import FrameHost.Proofs.Step
import FrameHost.Proofs.Step.Act
import FrameHost.Proofs.Step.Dispatch
import FrameHost.Proofs.Step.Frames
import FrameHost.Proofs.Step.Action
import FrameHost.Proofs.Step.Boot
import FrameHost.Proofs.Step.Command
import FrameHost.Proofs.Step.Run
import FrameHost.Proofs.Alike
import FrameHost.Proofs.Hierarchy
import FrameHost.Proofs.Inheritance
import FrameHost.Proofs.Layout
import FrameHost.Proofs.Listeners.Index
import FrameHost.Proofs.Listeners.Run
import FrameHost.Proofs.Isolation.Twin
import FrameHost.Proofs.Isolation.Dispatch
import FrameHost.Proofs.Isolation.Action
import FrameHost.Proofs.Isolation.Boot
import FrameHost.Proofs.Isolation.Command
import FrameHost.Proofs.Isolation.Run
import FrameHost.Proofs.Ancestry
import FrameHost.Proofs.AnchorGraph
import FrameHost.Proofs.Batches
import FrameHost.Proofs.Creation
import FrameHost.Proofs.Delivery
import FrameHost.Proofs.Descent
import FrameHost.Proofs.Documents
import FrameHost.Proofs.Enrolment
import FrameHost.Proofs.HitTest
import FrameHost.Proofs.InPlace
import FrameHost.Proofs.Loading
import FrameHost.Proofs.Loops
import FrameHost.Proofs.Merging
import FrameHost.Proofs.Names
import FrameHost.Proofs.Nearest
import FrameHost.Proofs.Naming
import FrameHost.Proofs.Notes
import FrameHost.Proofs.Notices
import FrameHost.Proofs.Points
import FrameHost.Proofs.Queue
import FrameHost.Proofs.Refusal
import FrameHost.Proofs.Reporting
import FrameHost.Proofs.Resolution
import FrameHost.Proofs.Repaint
import FrameHost.Proofs.Searching
import FrameHost.Proofs.Size
import FrameHost.Proofs.Slots
import FrameHost.Proofs.Snapshots
import FrameHost.Proofs.Templates
import FrameHost.Proofs.Visibility
import FrameHost.Proofs.Timers.Acts
import FrameHost.Proofs.Timers.Plan
import FrameHost.Proofs.Timers.Order
import FrameHost.Proofs.Timers.Life
import FrameHost.Proofs.Timers.Run
import FrameHost.Proofs.Timers.Batch
import FrameHost.Proofs.Timers.Tick
import FrameHost.Proofs.Timers.Handles
import FrameHost.Proofs.Updates.Journal
import FrameHost.Proofs.Updates.Turn
import FrameHost.Proofs.Updates.Run
import FrameHost.Proofs.Updates.Unmuting
