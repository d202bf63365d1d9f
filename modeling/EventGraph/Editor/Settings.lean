import EventGraph.Number.Layout
import EventGraph.Plane.Basic
import EventGraph.Ron.Reader
import EventGraph.Ron.Record
import EventGraph.Viewport

/-!
# Editor settings

The tunables of the editor and their text. A field that the text does not name takes its
default.
-/

namespace EventGraph

structure Settings (α : Type) where
  minScale : α
  maxScale : α
  /-- Zoom factor of one wheel notch. -/
  zoomStep : α
  /-- The longest time between two clicks on one node that make a double click. -/
  doubleClickMs : Nat
  /-- Round dragged nodes to the grid on release. -/
  snapToGrid : Bool
  snapSize : α
  showGrid : Bool
  gridSpacing : α
  /-- The longest screen distance at which the pointer is on a connector. -/
  connectorHitDistance : α
  deriving BEq

/-- Why settings cannot be used. -/
inductive SettingsError where
  | unreadableFile
  | unreadableText
  | invalidRange (minScale maxScale : Float32)

namespace Settings

variable {α : Type} [Scalar α]

def default : Settings α where
  minScale := Viewport.defaultMinScale
  maxScale := Viewport.defaultMaxScale
  zoomStep := 1.1
  doubleClickMs := 300
  snapToGrid := false
  snapSize := 20.0
  showGrid := true
  gridSpacing := 20.0
  connectorHitDistance := 6.0

/-- The grid point nearest to a world position, where snapping is on. -/
def snap (s : Settings α) (p : Point α) : Point α :=
  if s.snapToGrid && decide (0.0 < s.snapSize) then
    ⟨Scalar.round (p.x / s.snapSize) * s.snapSize, Scalar.round (p.y / s.snapSize) * s.snapSize⟩
  else p

/-! ### Text -/

/-- Numbers in messages: positional, whole ones without a fraction. -/
def plainLayout : Number.Layout where
  tie := .away
  positional _ := true
  wholeFraction := false
  nanText := "NaN"
  infinityText := "inf"
  negativeInfinityText := "-inf"

/-- Numbers in settings: positional, with a fraction. -/
def settingLayout : Number.Layout := { plainLayout with wholeFraction := true }

def recordName : String := "EditorSettings"

def ofFields? (fields : List (String × Ron)) : Option (Settings Float32) := do
  let d : Settings Float32 := default
  pure {
    minScale := ← Ron.field? fields "min_scale" Ron.float32? d.minScale
    maxScale := ← Ron.field? fields "max_scale" Ron.float32? d.maxScale
    zoomStep := ← Ron.field? fields "zoom_step" Ron.float32? d.zoomStep
    doubleClickMs := ← Ron.field? fields "double_click_ms" Ron.natural? d.doubleClickMs
    snapToGrid := ← Ron.field? fields "snap_to_grid" Ron.bool? d.snapToGrid
    snapSize := ← Ron.field? fields "snap_size" Ron.float32? d.snapSize
    showGrid := ← Ron.field? fields "show_grid" Ron.bool? d.showGrid
    gridSpacing := ← Ron.field? fields "grid_spacing" Ron.float32? d.gridSpacing
    connectorHitDistance :=
      ← Ron.field? fields "connector_hit_distance" Ron.float32? d.connectorHitDistance }

/-- Refuses a range of zoom factors that is empty or not positive. -/
def checked (s : Settings Float32) : Except SettingsError (Settings Float32) :=
  if s.minScale ≤ 0.0 || s.maxScale < s.minScale then
    .error (.invalidRange s.minScale s.maxScale)
  else .ok s

/-- Reads settings from their text. -/
def ofText (text : String) : Except SettingsError (Settings Float32) :=
  match (Ron.read? text).bind fun v => (v.recordFields? recordName).bind ofFields? with
  | some s => s.checked
  | none => .error .unreadableText

/-- The text of settings, one field a line. -/
def toText (s : Settings Float32) : String :=
  let number := settingLayout.float32
  let bool (b : Bool) := if b then "true" else "false"
  let fields := [
    ("min_scale", number s.minScale), ("max_scale", number s.maxScale),
    ("zoom_step", number s.zoomStep),
    ("double_click_ms", String.ofList (Number.digitChars s.doubleClickMs)),
    ("snap_to_grid", bool s.snapToGrid), ("snap_size", number s.snapSize),
    ("show_grid", bool s.showGrid), ("grid_spacing", number s.gridSpacing),
    ("connector_hit_distance", number s.connectorHitDistance)]
  recordName ++ "(\n" ++
    String.join (fields.map fun (name, v) => "    " ++ name ++ ": " ++ v ++ ",\n") ++ ")"

/-- Reads a settings file, given by its text if it is there. -/
def load : Option String → Except SettingsError (Settings Float32)
  | some text => ofText text
  | none => .error .unreadableFile

/-- Reads a settings file; without one, the defaults hold. -/
def loadOrDefault : Option String → Except SettingsError (Settings Float32)
  | some text => ofText text
  | none => .ok default

end Settings

def SettingsError.message : SettingsError → String
  | unreadableFile => "I/O error"
  | unreadableText => "Failed to parse settings"
  | invalidRange minScale maxScale =>
    "Invalid settings: zoom limits " ++ Settings.plainLayout.float32 minScale ++ ".." ++
      Settings.plainLayout.float32 maxScale ++ " are not a valid range"

end EventGraph
