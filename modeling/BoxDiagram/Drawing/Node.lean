/-
Module: BoxDiagram.Drawing.Node
Purpose: Drawings of boxes and of their ports.  A box with others inside it is a frame with a title, a full
  leaf has its label inside, and a compact leaf has its name inside and captions below.
Main exports: BoxPaint, BoxShape, PortShapes, compactCaptions, fullCaptions, compoundTitle, drawNode
-/
import BoxDiagram.Colour.Table
import BoxDiagram.Diagram.Basic
import BoxDiagram.Drawing.Layer
import BoxDiagram.Drawing.Text
import BoxDiagram.Layout.LeafSize
import BoxDiagram.Layout.Positioned

namespace BoxDiagram

variable {α : Type} [Scalar α]

/-- The line colour of a box that names none. -/
def defaultStroke : String := "#1B2A4A"

/-- The fill of an actor that names none. -/
def actorFill : String := "#E8DAEF"

/-- Colours and line width of one box. -/
structure BoxPaint (α : Type) where
  fill : String
  stroke : String
  strokeWidth : α
deriving Repr

/-- The names of the fill and of the line colour of a box at a depth. -/
def BoxPaint.names (model : Option (Tree Box)) (defaults : StyleDefaults α) (depth : Nat) :
    String × String :=
  let style := model.map fun t => t.value.style
  ((style.bind BoxStyle.background).getD (defaults.background depth),
    (style.bind BoxStyle.colour).getD defaultStroke)

/-- The paint of a box at a depth, its colour names looked up by `paint`. -/
def BoxPaint.of (model : Option (Tree Box)) (defaults : StyleDefaults α) (depth : Nat)
    (paint : String → String) : BoxPaint α :=
  let (fill, stroke) := BoxPaint.names model defaults depth
  ⟨paint fill, paint stroke, defaults.borderWeight depth⟩

/-- The outline of a box. -/
structure Outline (α : Type) where
  width : α
  height : α
  radius : α
  fill : String
  stroke : String
  strokeWidth : α
deriving Repr

/-- The drawing of one box, relative to `origin`. -/
structure BoxShape (α : Type) where
  /-- Id of the node. -/
  id : String
  origin : Point α
  outline : Outline α
  title : Option (TextBlock α)
  captions : List (Caption α)
deriving Repr

/-- The ports of one box, relative to `origin`. -/
structure PortShapes (α : Type) where
  origin : Point α
  centers : List (Point α)
  fill : String
deriving Repr

/-! ### Texts of a box -/

def italicGrey : List (String × String) := [("font-style", "italic"), ("fill", "#666")]

def boldStroke (paint : BoxPaint α) : List (String × String) :=
  [("font-weight", "bold"), ("fill", paint.stroke)]

/-- The title of a frame: the lines of its label from the top left corner down. -/
def compoundTitle (paint : BoxPaint α) (label : String) : Option (TextBlock α) :=
  if label.isEmpty then none
  else some
    { x := 12.0
      baseline := 22.0
      step := 16
      lines := Text.lines label
      look := ("font-size", "13") :: boldStroke paint }

/-- The reference to a more detailed diagram, below the title. -/
def compoundZoom (label : String) (zoom : Option String) : List (Caption α) :=
  match zoom with
  | none => []
  | some zoom =>
      let lines : α := Scalar.ofNat (Text.lines label).length
      [⟨12.0, 22.0 + lines * 16.0 + 2.0, "→ Zoom in: " ++ zoom, ("font-size", "10") :: italicGrey⟩]

/-- The look of a line inside a full leaf: size and further attributes. -/
def fullLineLook (paint : BoxPaint α) : Nat → String × List (String × String)
  | 0 => ("14", boldStroke paint)
  | 1 => ("11", [("fill", "#555")])
  | _ => ("10", [("fill", "#777")])

/-- The texts of a full leaf: the lines of the label, centred, and the reference to a more detailed diagram
at the bottom. -/
def fullCaptions (size : Size α) (paint : BoxPaint α) (label : String) (zoom : Option String) :
    List (Caption α) :=
  let lines := Text.lines label
  let middle := size.width / 2.0
  let start := (size.height - Scalar.ofNat lines.length * 18.0) / 2.0 + 14.0
  let labelCaptions := lines.zipIdx.map fun (line, i) =>
    let (fontSize, look) := fullLineLook paint i
    Caption.centred middle (start + Scalar.ofNat i * 18.0) line fontSize look
  labelCaptions ++ zoom.toList.map fun z =>
    Caption.centred middle (size.height - 8.0) ("→ " ++ z) "9" italicGrey

/-- The caption below a compact leaf at which the description begins. -/
def descriptionBaseline (technology : Option String) : α :=
  let first := compactShapeHeight + 15.0
  if technology.isSome then first + 14.0 else first

def nameCaption (width : α) (paint : BoxPaint α) (name : String) : List (Caption α) :=
  if name.isEmpty then []
  else [Caption.centred (width / 2.0) (compactShapeHeight / 2.0 + 5.0) name "13" (boldStroke paint)]

/-- The captions below a compact leaf: the technology in brackets, the lines of the description, and the
reference to a more detailed diagram. -/
def captionsBelow (width : α) (technology description zoom : Option String) : List (Caption α) :=
  let middle := width / 2.0
  let below : α := descriptionBaseline technology
  let descriptionLines := description.elim [] Text.lines
  let technologyCaption := technology.toList.map fun t =>
    Caption.centred middle (compactShapeHeight + 15.0) ("[" ++ t ++ "]") "10" italicGrey
  let descriptionCaptions := descriptionLines.zipIdx.map fun (line, i) =>
    Caption.centred middle (below + Scalar.ofNat i * 13.0) line "10" [("fill", "#555")]
  let gap : α := if description.isSome then 4.0 else 0.0
  let zoomCaption := zoom.toList.map fun z =>
    Caption.centred middle (below + Scalar.ofNat descriptionLines.length * 12.0 + gap) ("→ " ++ z) "9"
      italicGrey
  technologyCaption ++ descriptionCaptions ++ zoomCaption

def compactCaptions (width : α) (paint : BoxPaint α) (b : Box) : List (Caption α) :=
  nameCaption width paint b.name ++ captionsBelow width b.technology b.description b.zoom

/-! ### Shapes -/

/-- The frame of a box with others inside it. -/
def compoundShape (n : PositionedNode α) (model : Option (Tree Box)) (paint : BoxPaint α)
    (origin : Point α) : BoxShape α :=
  let label := n.labels.headD ""
  { id := n.id
    origin := origin
    outline := ⟨n.width, n.height, 6.0, paint.fill, paint.stroke, paint.strokeWidth⟩
    title := compoundTitle paint label
    captions := compoundZoom label (model.bind fun t => t.value.zoom) }

def fullShape (n : PositionedNode α) (b : Box) (paint : BoxPaint α) (origin : Point α) : BoxShape α :=
  { id := n.id
    origin := origin
    outline := ⟨n.width, n.height, 8.0, paint.fill, paint.stroke, paint.strokeWidth⟩
    title := none
    captions := fullCaptions n.size paint b.label b.zoom }

/-- A compact leaf; without a box it has no texts.  The shape of an actor is rounder than that of other
leaves and has a fill of its own. -/
def compactShape (n : PositionedNode α) (model : Option (Tree Box)) (paint : BoxPaint α)
    (origin : Point α) : BoxShape α :=
  let isActor := model.elim false fun t => t.value.isActor
  let hasFill := model.elim false fun t => t.value.style.background.isSome
  let fill := if isActor && !hasFill then actorFill else paint.fill
  let radius : α := if isActor then Scalar.smaller (compactShapeHeight / 2.0) 20.0 else 8.0
  { id := n.id
    origin := origin
    outline := ⟨n.width, compactShapeHeight, radius, fill, paint.stroke, paint.strokeWidth⟩
    title := none
    captions := model.elim [] fun t => compactCaptions n.width paint t.value }

/-- The shape of a node, and the layer it belongs to. -/
def boxShape (t : Tree (PositionedNode α)) (model : Option (Tree Box)) (paint : BoxPaint α)
    (origin : Point α) : Layer × BoxShape α :=
  if t.isCompound then (.container, compoundShape t.value model paint origin)
  else
    match model with
    | some m =>
        if Box.isFull m then (.node, fullShape t.value m.value paint origin)
        else (.node, compactShape t.value model paint origin)
    | none => (.node, compactShape t.value model paint origin)

/-- The ports of a node, if it has any. -/
def portShapes (n : PositionedNode α) (paint : BoxPaint α) (origin : Point α) : Option (PortShapes α) :=
  if n.ports.isEmpty then none else some ⟨origin, n.ports.map PositionedPort.center, paint.stroke⟩

/-! ### Elements -/

variable [NumberText α]

def Outline.toSvg (o : Outline α) : Svg.Node :=
  .element "rect"
    [("width", NumberText.print o.width), ("height", NumberText.print o.height),
      ("rx", NumberText.print o.radius), ("ry", NumberText.print o.radius), ("fill", o.fill),
      ("stroke", o.stroke), ("stroke-width", NumberText.print o.strokeWidth)] []

/-- The group of a box: outline, title, captions. -/
def BoxShape.toSvg (s : BoxShape α) : Svg.Node :=
  Svg.group [translation s.origin]
    (s.outline.toSvg :: s.title.toList.map TextBlock.toSvg ++ s.captions.map Caption.toSvg)

/-- The group of the ports of a box: a circle for each. -/
def PortShapes.toSvg (s : PortShapes α) : Svg.Node :=
  Svg.group [translation s.origin] (s.centers.map fun c =>
    .element "circle"
      [("class", "port"), ("cx", NumberText.print c.x), ("cy", NumberText.print c.y), ("r", "5"),
        ("fill", s.fill), ("stroke", "white"), ("stroke-width", "1.5")] [])

end BoxDiagram
