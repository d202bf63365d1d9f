import EventGraph.Ron.Reader
import EventGraph.Ron.Record

/-!
# Preview configuration

How a preview is set up, read from a file beside the graphs. A field that the text does not
name takes its default.
-/

namespace EventGraph.Preview

structure Config where
  logFilter : String := "storyflow=info"
  /-- Action lines run before the play-through starts. -/
  setupScript : List String := []
  /-- Refuse to play graphs that fail validation. -/
  stopOnValidationErrors : Bool := true
  /-- Entered instead of the graph's entry node. -/
  startNode : Option String := none
  deriving Repr, DecidableEq

namespace Config

def fileName : String := "storyflow_preview.ron"

def recordName : String := "PreviewConfig"

def ofFields? (fields : List (String × Ron)) : Option Config := do
  let d : Config := {}
  pure {
    logFilter := ← Ron.field? fields "log_filter" Ron.string? d.logFilter
    setupScript := ← Ron.field? fields "setup_script" (Ron.list? Ron.string?) d.setupScript
    stopOnValidationErrors :=
      ← Ron.field? fields "stop_on_validation_errors" Ron.bool? d.stopOnValidationErrors
    startNode := ← Ron.field? fields "start_node" (Ron.option? Ron.string?) d.startNode }

/-- Reads a configuration from its text. -/
def ofText? (text : String) : Option Config :=
  (Ron.read? text).bind fun v => (v.recordFields? recordName).bind ofFields?

/-- The setup lines as one script. -/
def setupSource (c : Config) : String := "\n".intercalate c.setupScript

end Config

end EventGraph.Preview
