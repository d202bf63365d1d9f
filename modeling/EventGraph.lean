import EventGraph.Number.Layout
import EventGraph.Number.Literal
import EventGraph.Text.Alphanumeric
import EventGraph.Text.Blank
import EventGraph.Text.Quoted
import EventGraph.Json.Printer
import EventGraph.Json.Tree
import EventGraph.Plane.Curve
import EventGraph.Viewport
import EventGraph.Script.Action
import EventGraph.Script.Substitution
import EventGraph.Graph.Connector
import EventGraph.Graph.Validation
import EventGraph.Document.Reader
import EventGraph.Playback.Session
import EventGraph.Editor.Event
import EventGraph.Store.Directory
import EventGraph.Store.Memory
import EventGraph.Scene.Frame
import EventGraph.Preview.Launch
import EventGraph.Main
import EventGraph.Proofs.Playback.Walk
import EventGraph.Proofs.Playback.Path
import EventGraph.Proofs.Playback.Call
import EventGraph.Proofs.Playback.Halting
import EventGraph.Proofs.Graph.Links
import EventGraph.Proofs.Graph.Paths
import EventGraph.Proofs.Playback.Validated
import EventGraph.Proofs.Editor.Operation
import EventGraph.Proofs.Editor.References
import EventGraph.Proofs.Playback.Waiting
import EventGraph.Proofs.Playback.Limit
import EventGraph.Proofs.Playback.Locality
import EventGraph.Proofs.Editor.Exclusion
import EventGraph.Proofs.Editor.Escape
import EventGraph.Proofs.Editor.Replay
import EventGraph.Proofs.Editor.Pending
import EventGraph.Proofs.Editor.Moves
import EventGraph.Proofs.Editor.Trail
import EventGraph.Proofs.Store.Library
import EventGraph.Proofs.Store.Reload
import EventGraph.Proofs.Store.Agreement
import EventGraph.Proofs.Variable.Expansion
import EventGraph.Proofs.Variable.Plain
import EventGraph.Proofs.Variable.Origin
import EventGraph.Proofs.Graph.Integrity
import EventGraph.Proofs.Storage.ReadWrite
import EventGraph.Proofs.Playback.Session
import EventGraph.Proofs.Script.Blanking
import EventGraph.Proofs.Script.Grammar
import EventGraph.Proofs.Script.Spelling
import EventGraph.Proofs.Playback.Finished
import EventGraph.Proofs.Store.Failure
import EventGraph.Proofs.Graph.Persistence
import EventGraph.Proofs.Graph.Issues
import EventGraph.Proofs.Script.Tokens
import EventGraph.Proofs.Playback.PickedText
import EventGraph.Proofs.Number.Order
import EventGraph.Proofs.Text.Words
import EventGraph.Proofs.Text.Wrapping
import EventGraph.Proofs.Graph.Removal
import EventGraph.Proofs.Graph.Connectors
import EventGraph.Proofs.Editor.Picking
import EventGraph.Proofs.Editor.Clicks
import EventGraph.Proofs.Storage.Overwriting
import EventGraph.Proofs.Script.Composition
import EventGraph.Proofs.Script.Arithmetic
import EventGraph.Proofs.Script.Comparison
import EventGraph.Proofs.Script.Quoting
import EventGraph.Proofs.Viewport.ZoomRange
import EventGraph.Proofs.Editor.AcceptedSettings
import EventGraph.Proofs.Scene.GridLines
import EventGraph.Proofs.Number.Nearest
import EventGraph.Proofs.Number.Product
import EventGraph.Proofs.Number.Alike
import EventGraph.Proofs.Number.Small
import EventGraph.Proofs.Text.Rewrapping
import EventGraph.Proofs.Scene.PaintOrder
import EventGraph.Proofs.Json.Limits
import EventGraph.Proofs.Document.Presentation
import EventGraph.Proofs.Node.Geometry
import EventGraph.Proofs.Viewport.FocalPoint
import EventGraph.Proofs.Node.Stack
import EventGraph.Proofs.Plane.Distance
