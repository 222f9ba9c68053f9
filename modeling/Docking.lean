import Docking.Command
import Docking.Command.Weight
import Docking.CommandLine.Arguments
import Docking.CommandLine.Viewport
import Docking.Datum.Basic
import Docking.Datum.Yaml
import Docking.Decimal.Reading
import Docking.Decimal.Shortest
import Docking.Decimal.Style
import Docking.Dock.Basic
import Docking.Dock.Check
import Docking.Dock.Drag
import Docking.Dock.Handle
import Docking.Dock.Queue
import Docking.Dock.Summary
import Docking.Dock.Tabs
import Docking.Document
import Docking.Fields
import Docking.Files.Basic
import Docking.Files.Tree
import Docking.Geometry
import Docking.Gesture
import Docking.Host
import Docking.Ident
import Docking.Item
import Docking.Json.Quoted
import Docking.Json.Token
import Docking.Json.Value
import Docking.Main
import Docking.Message
import Docking.Panel
import Docking.Path
import Docking.Payload
import Docking.Plugin.Loading
import Docking.Plugin.Manifest
import Docking.Plugin.Registry
import Docking.Program
import Docking.Script.Reading
import Docking.Script.Run
import Docking.Script.Step
import Docking.Settings.Basic
import Docking.Settings.Loading
import Docking.Settings.Reading
import Docking.Shell.Basic
import Docking.Shell.Run
import Docking.Split
import Docking.Table
import Docking.Text.Blank
import Docking.Text.Combining
import Docking.Text.Escaped
import Docking.Text.Hex
import Docking.Text.Hidden
import Docking.Tree.Basic
import Docking.Tree.Edit
import Docking.Tree.Fault
import Docking.Tree.Outline
import Docking.Tree.Snapshot
import Docking.Tree.Validity
import Docking.Yaml.Block
import Docking.Yaml.Character
import Docking.Yaml.Cursor
import Docking.Yaml.Grammar
import Docking.Yaml.Node
import Docking.Yaml.Plain
import Docking.Yaml.Quoted
import Docking.Yaml.Scanner
import Docking.Yaml.Tag
import Docking.Yaml.Token
import Docking.Yaml.Writing
import Docking.Zone
import Docking.Proofs.Layout.Basic
import Docking.Proofs.Layout.Trail
import Docking.Proofs.Tree.Holds
import Docking.Proofs.Tree.Edits
import Docking.Proofs.Tree.Walks
import Docking.Proofs.Tree.Removal
import Docking.Proofs.Tree.Refusals
import Docking.Proofs.Layout.Tidy
import Docking.Proofs.Layout.Change
import Docking.Proofs.Dock.Operation
import Docking.Proofs.Layout.Landing
import Docking.Proofs.Dock.Placing
import Docking.Proofs.Dock.Sound
import Docking.Proofs.Dock.Steps
import Docking.Proofs.Tree.Shape
import Docking.Proofs.Dock.Consistency
import Docking.Proofs.Dock.Strict
import Docking.Proofs.Tree.Survey
import Docking.Proofs.Tree.Verdict
import Docking.Proofs.Dock.Checking
import Docking.Proofs.Dock.Moves
import Docking.Proofs.Dock.Refinement
import Docking.Proofs.Dock.Frame
import Docking.Proofs.Dock.Gestures
import Docking.Proofs.Dock.Book
import Docking.Proofs.Dock.Courses
import Docking.Proofs.Dock.Handover
import Docking.Proofs.Dock.History
import Docking.Proofs.Dock.Content
import Docking.Proofs.Dock.Mounting
import Docking.Proofs.Dock.Windows
import Docking.Proofs.Host.Headless
import Docking.Proofs.Shell.Answers
import Docking.Proofs.Shell.Tally
import Docking.Proofs.Shell.Errands
import Docking.Proofs.Shell.Stopping
import Docking.Proofs.Shell.Lasting
import Docking.Proofs.Shell.Calls
import Docking.Proofs.Shell.Mirroring
import Docking.Proofs.Shell.Upkeep
import Docking.Proofs.Tree.Areas
import Docking.Proofs.Dock.Areas
import Docking.Proofs.Dock.Indication
import Docking.Proofs.Layout.Stripping
import Docking.Proofs.Dock.Closing
import Docking.Proofs.Shell.Choices
import Docking.Proofs.Shell.Permits
import Docking.Proofs.Dock.InFlight
import Docking.Proofs.Dock.Repaints
import Docking.Proofs.Shell.Quiescence
import Docking.Proofs.Shell.Reporting
import Docking.Proofs.Geometry.Value
import Docking.Proofs.Geometry.Rounding
import Docking.Proofs.Geometry.Arithmetic
import Docking.Proofs.Geometry.Undefined
import Docking.Proofs.CommandLine.Viewport
import Docking.Proofs.Geometry.Tiling
import Docking.Proofs.Dock.Tiling
import Docking.Proofs.Tree.Linked
import Docking.Proofs.Tree.Pruning
import Docking.Proofs.Tree.Undoing
import Docking.Proofs.Dock.Redocking
import Docking.Proofs.Dock.Focus
import Docking.Proofs.Shell.Startup
import Docking.Proofs.Shell.Opening
import Docking.Proofs.Tree.Writes
import Docking.Proofs.Dock.Writes
import Docking.Proofs.Dock.Notes
import Docking.Proofs.Dock.Names
import Docking.Proofs.Dock.Declining
import Docking.Proofs.Panel.Standing
import Docking.Proofs.Panel.Turning
import Docking.Proofs.Json.Quoted
import Docking.Proofs.Json.Records
import Docking.Proofs.Shell.Delivery
import Docking.Proofs.Dock.Summary
import Docking.Proofs.Shell.Batches
