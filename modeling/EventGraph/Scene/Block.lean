import EventGraph.Editor.Basic
import EventGraph.Scene.Mark

/-!
# Blocks

A node is drawn as one block: shadow, background, header, close button, body text, entrance,
exits and outline, back to front.
-/

namespace EventGraph

variable {α : Type} [Scalar α]

/-- The lines of the body text and the world positions of their left ends. -/
def Node.bodyLines (n : Node α) (m : Measurer α) : List (Point α × String) :=
  match n.body.text? with
  | some text =>
    let top := n.y + Metrics.headerHeight + Metrics.padding
    (Text.wrap m Metrics.textWidth text).mapIdx fun (i : Nat) line =>
      (⟨n.x + Metrics.padding, top + ((i : α) + 0.5) * Metrics.lineHeight⟩, line)
  | none => []

namespace Scene

/-- What is shown beside the graph and the editor. -/
structure Highlights (α : Type) where
  /-- Nodes outlined as faulty. -/
  faulty : List NodeId := []
  /-- The node a play-through is on. -/
  active : Option NodeId := none
  /-- A sprite and the position of its corner. -/
  sprite : Option (String × Point α) := none

namespace Block

open Metrics

def rounding : α := 6.0
def shadowOffset : α := 3.0
def titleSize : α := 12.0
def bodySize : α := 12.0
def labelSize : α := 10.0

/-- How many characters of a label are shown. -/
def labelLimit : Nat := 33

/-- Cuts a label that is too long and marks the cut. -/
def clip (label : String) : String :=
  let cs := label.toList
  if cs.length ≤ labelLimit then label else String.ofList (cs.take (labelLimit - 1) ++ ['…'])

def shadow (v : Viewport α) (box : Rect α) : Mark α :=
  .box (box.translate (.diagonal (shadowOffset * v.scale))) (.round (rounding * v.scale))
    ⟨0, 0, 0, 60⟩ .none

def background (v : Viewport α) (box : Rect α) (active : Bool) : Mark α :=
  .box box (.round (rounding * v.scale)) (if active then .rgb 50 75 60 else .rgb 45 45 48) .none

def header (v : Viewport α) (box : Rect α) (kind : NodeKind) : List (Mark α) :=
  let bar := Rect.ofSize box.min ⟨box.width, headerHeight * v.scale⟩
  [.box bar (.roundTop (rounding * v.scale)) kind.color .none,
   .text ⟨bar.min.x + padding * v.scale, bar.middleY⟩ .leftCenter kind.title (titleSize * v.scale)
     .white]

def closeCross (v : Viewport α) (n : Node α) (hovered : Bool) : List (Mark α) :=
  let button := v.rectToScreen n.closeButton
  let cross := button.shrink (button.width * 0.25)
  let stroke := ⟨1.5 * v.scale, if hovered then .rgb 255 120 120 else .gray 200⟩
  [.line cross.min cross.max stroke,
   .line ⟨cross.max.x, cross.min.y⟩ ⟨cross.min.x, cross.max.y⟩ stroke]

def bodyText (v : Viewport α) (m : Measurer α) (n : Node α) : List (Mark α) :=
  (n.bodyLines m).map fun (p, line) =>
    .text (v.toScreen p) .leftCenter line (bodySize * v.scale) (.gray 220)

/-- The outline of entrances and exits. -/
def rim : Stroke α := ⟨1.0, .gray 30⟩

def entrance (v : Viewport α) (n : Node α) : List (Mark α) :=
  if n.kind = .comment then []
  else [.circle (v.toScreen n.entrance) (anchorRadius * 0.75 * v.scale) (.gray 120) rim]

/-- One exit, with its label where exits have rows of their own. -/
def exit (v : Viewport α) (anchor : Point α) (target : Option NodeId) (label : Option String)
    (hovered : Bool) : List (Mark α) :=
  let center := v.toScreen anchor
  let radius := if hovered then anchorRadius * 1.3 * v.scale else anchorRadius * v.scale
  .circle center radius (if target.isSome then .rgb 120 200 140 else .gray 70) rim ::
    (label.map fun label =>
      .text ⟨center.x - (anchorRadius + padding) * v.scale, center.y⟩ .rightCenter (clip label)
        (labelSize * v.scale) (.gray 200)).toList

def hasRows : NodeKind → Bool
  | .choice | .switch => true
  | .exec | .terminal | .comment => false

def exits (v : Viewport α) (n : Node α) (hover : Option Hit) : List (Mark α) :=
  ((n.exitAnchors.zip n.body.exits).mapIdx fun index (anchor, target) =>
    exit v anchor target (if hasRows n.kind then n.body.exitLabels[index]? else none)
      (hover == some (.exit ⟨n.id, index⟩))).flatten

/-- A fault shows before a selection, a selection before the pointer. -/
def outline (v : Viewport α) (box : Rect α) (faulty selected hovered : Bool) : List (Mark α) :=
  let mark (width : α) (color : Color) : List (Mark α) :=
    [.box box (.round (rounding * v.scale)) .transparent ⟨width, color⟩]
  if faulty then mark 2.0 (.rgb 230 70 70)
  else if selected then mark 2.0 (.rgb 100 150 255)
  else if hovered then mark 1.0 (.gray 160)
  else []

/-- All marks of one node. -/
def marks (e : Editor α) (m : Measurer α) (h : Highlights α) (n : Node α) : List (Mark α) :=
  let v := e.viewport
  let box := v.rectToScreen n.rect
  [shadow v box, background v box (h.active == some n.id)] ++ header v box n.kind ++
    closeCross v n (e.hover == some (.closeButton n.id)) ++ bodyText v m n ++ entrance v n ++
    exits v n e.hover ++
    outline v box (h.faulty.contains n.id) (e.isSelected n.id)
      (e.hover.bind (·.node?) == some n.id)

end Block

end Scene

end EventGraph
