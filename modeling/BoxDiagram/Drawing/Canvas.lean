/-
Module: BoxDiagram.Drawing.Canvas
Purpose: The drawing of a whole diagram: title, boxes, ports, edges with their labels, legend.
Main exports: DrawingStyle, EdgePaint, titleStrips, DrawnItem, drawEdges, drawContent, Drawing, draw,
  Drawing.toSvg, colourUses
-/
import BoxDiagram.Config.Basic
import BoxDiagram.Drawing.Label
import BoxDiagram.Drawing.Legend
import BoxDiagram.Drawing.Marker
import BoxDiagram.Drawing.Node
import BoxDiagram.Number.Reading

namespace BoxDiagram

/-- The colour of edges when nothing else is said. -/
def standardEdgeColour : String := "#555"

/-- What a drawing takes from the configuration. -/
structure DrawingStyle (α : Type) where
  colours : ColourTable
  edgeColour : String
  cornerRadius : α
  canvasPadding : α
  labelPadding : α
deriving Repr

variable {α : Type} [Scalar α]

/-- The style with these spacings, colours and colour of edges. -/
def DrawingStyle.of (layout : LayoutConfig α) (colours : ColourTable) (edgeColour : String) :
    DrawingStyle α :=
  ⟨colours, edgeColour, layout.cornerRadius, layout.canvasPadding, layout.labelPadding⟩

def DrawingStyle.standard : DrawingStyle α := .of .standard .builtin standardEdgeColour

/-! ### Edges -/

/-- An edge that is to be drawn: the edge of the diagram it comes from, its colour, and the points of its
sections in the drawing. -/
structure EdgePaint (α : Type) where
  edge : PositionedEdge α
  model : Option Edge
  colour : String
  lines : List (List (Point α))
deriving Repr

/-- A position in a list, written in digits; a plus sign may stand before them.  A number that is too large
for any list is read as well and finds nothing. -/
def readIndex? (cs : List Char) : Option Nat :=
  let digits := match cs with
    | '+' :: rest => rest
    | _ => cs
  if digits.isEmpty || !digits.all Char.isDigit then none else some (digitsValue digits)

/-- The position in the list of edges that the id of a routed edge tells. -/
def edgeIndex? (id : String) : Option Nat :=
  match id.toList with
  | 'e' :: digits => readIndex? digits
  | _ => none

/-- The edge of the diagram that a routed edge comes from. -/
def modelEdge? (d : Diagram α) (edge : PositionedEdge α) : Option Edge :=
  (edgeIndex? edge.id).bind fun i => d.edges[i]?

/-- The routed edges that have sections, ready to be drawn. -/
def prepareEdges (d : Diagram α) (style : DrawingStyle α) (g : PositionedGraph α) : List (EdgePaint α) :=
  (g.edges.filter fun e => !e.sections.isEmpty).map fun e =>
    let model := modelEdge? d e
    let colour := match model.bind Edge.colourName with
      | some name => style.colours.paint name
      | none => style.edgeColour
    ⟨e, model, colour, e.sections.map fun s => s.points (g.absoluteOrigin e.container)⟩

/-- Height of the strip at the top of a frame that labels keep clear of. -/
def titleStripHeight : α := 50.0

/-- The strips with the titles of frames. -/
def titleStrips (g : PositionedGraph α) : List (Bounds α) :=
  g.walk.filterMap fun v =>
    let n := v.node.value
    if v.node.isCompound && decide ((0.0 : α) < n.width) && decide ((0.0 : α) < n.height) then
      some (.ofTopLeft v.origin ⟨n.width, Scalar.smaller n.height titleStripHeight⟩)
    else none

/-- The line of an edge. -/
structure EdgeLine (α : Type) where
  steps : List (PathStep α)
  colour : String
  dashed : Bool
deriving Repr

/-- The label of an edge: the rectangle behind it and its lines. -/
structure LabelShape (α : Type) where
  placement : LabelPlacement α
  size : Size α
  text : String
  colour : String
deriving Repr

/-- Something in the content of a drawing. -/
inductive DrawnItem (α : Type) where
  | box (shape : BoxShape α)
  | ports (shapes : PortShapes α)
  | line (line : EdgeLine α)
  | labelBack (label : LabelShape α)
  | labelText (label : LabelShape α)
deriving Repr

/-- The label of an edge: the one of the routed edge, or else that of the edge of the diagram, if it is not
empty. -/
def EdgePaint.labelText? (p : EdgePaint α) : Option String :=
  match p.edge.labels.head?.or (p.model.bind Edge.label) with
  | some label => if label.isEmpty then none else some label
  | none => none

/-- Baselines of the lines of a label.  A single line stands 2 above the anchor, and of several lines the last
one stands 2 below it. -/
def labelBaselines (anchor : Point α) (text : String) : List α :=
  let lines := Text.lines text
  match lines with
  | [_] => [anchor.y - 2.0]
  | _ =>
      let start := anchor.y - Scalar.ofNat (lines.length - 1) * 14.0 + 2.0
      (List.range lines.length).map fun i => start + Scalar.ofNat (i * 14)

variable [Metric α]

/-- The lines of an edge, one for each section. -/
def EdgePaint.edgeLines (p : EdgePaint α) (radius : α) : List (EdgeLine α) :=
  p.lines.map fun points => ⟨roundedPath radius points, p.colour, p.model.elim false fun e => e.style.dashed⟩

/-- The label of an edge, placed along its first section clear of what is placed already. -/
def EdgePaint.placeLabel? (p : EdgePaint α) (placed : PlacedRects α) : Option (LabelShape α) :=
  match p.labelText?, p.lines with
  | some text, points :: _ =>
      let size := labelSize text
      some ⟨findLabelPosition points size placed, size, text, p.colour⟩
  | _, _ => none

/-- Draw edges one after the other; every label that is placed is kept clear of by the later ones. -/
def drawEdges (radius : α) (placed : PlacedRects α) :
    List (EdgePaint α) → LayeredOutput (DrawnItem α)
  | [] => .empty
  | p :: rest =>
      let lines := (p.edgeLines radius).map fun line => (Layer.edge, DrawnItem.line line)
      match p.placeLabel? placed with
      | none => .merge ⟨lines⟩ (drawEdges radius placed rest)
      | some label =>
          .merge ⟨lines ++ [(.label, .labelBack label), (.label, .labelText label)]⟩
            (drawEdges radius (placed.push label.placement.rect) rest)

/-! ### The drawing -/

/-- The box and the ports of one node of the layout. -/
def drawNode (d : Diagram α) (index : BoxIndex) (colours : ColourTable) (v : Visit α) :
    LayeredOutput (DrawnItem α) :=
  let model := index.get? v.node.value.id
  let paint := BoxPaint.of model d.style v.depth colours.paint
  let (layer, shape) := boxShape v.node model paint v.origin
  ⟨(layer, .box shape) ::
    ((portShapes v.node.value paint v.origin).toList.map fun p => (Layer.port, DrawnItem.ports p))⟩

/-- All boxes, ports, edges and labels. -/
def drawContent (d : Diagram α) (style : DrawingStyle α) (g : PositionedGraph α)
    (edges : List (EdgePaint α)) : LayeredOutput (DrawnItem α) :=
  let index := BoxIndex.ofForest d.boxes
  let nodes := LayeredOutput.concat (g.walk.map (drawNode d index style.colours))
  nodes.merge (drawEdges style.cornerRadius ⟨titleStrips g, style.labelPadding⟩ edges)

/-- A whole drawing. -/
structure Drawing (α : Type) where
  width : α
  height : α
  font : String
  title : Option String
  metadata : Option String
  /-- Where the content begins. -/
  contentOrigin : Point α
  markerColours : List String
  content : LayeredOutput (DrawnItem α)
  legend : Option (LegendPanel α)
deriving Repr

/-- Height of the bands for title and metadata. -/
def headingHeight (d : Diagram α) : α :=
  (if d.title.isSome then (40.0 : α) else 0.0) +
    (if (d.metadata.filter fun m => !m.isEmpty).isSome then (20.0 : α) else 0.0)

/-- The drawing of a diagram with this layout. -/
def draw (d : Diagram α) (style : DrawingStyle α) (g : PositionedGraph α) : Drawing α :=
  let padding := style.canvasPadding
  let heading := headingHeight d
  let contentWidth := g.width + padding * 2.0
  let contentHeight := g.height + padding * 2.0 + heading
  let edges := prepareEdges d style g
  let legend := legendPanel? d.legend d.allPorts (contentHeight - padding) style.colours.paint
  { width := legend.elim contentWidth fun panel => Scalar.larger contentWidth panel.requiredWidth
    height := contentHeight + legend.elim 0.0 LegendPanel.height
    font := d.style.font
    title := d.title
    metadata := (d.metadata.filter fun m => !m.isEmpty).map Metadata.summary
    contentOrigin := ⟨padding, padding + heading⟩
    markerColours := style.edgeColour :: edges.map EdgePaint.colour
    content := drawContent d style g edges
    legend := legend }

/-- The colour names that a drawing looks up, in order: fill and line of every box, the edges, and the
swatches of the legend. -/
def colourUses (d : Diagram α) (g : PositionedGraph α) : List String :=
  let index := BoxIndex.ofForest d.boxes
  let boxes := g.walk.flatMap fun v =>
    let (fill, stroke) := BoxPaint.names (index.get? v.node.value.id) d.style v.depth
    [fill, stroke]
  let edges := (g.edges.filter fun e => !e.sections.isEmpty).filterMap fun e =>
    (modelEdge? d e).bind Edge.colourName
  let swatches := (legendPanel? d.legend d.allPorts (0.0 : α) id).elim []
    fun _ => d.legend.edgeColours.map (·.1)
  boxes ++ edges ++ swatches

/-! ### Elements -/

variable [NumberText α]

/-- The path of an edge, with an arrowhead of its colour at the end. -/
def EdgeLine.toSvg (l : EdgeLine α) : Svg.Node :=
  .element "path"
    ([("d", pathData l.steps), ("fill", "none"), ("stroke", l.colour), ("stroke-width", "2"),
      ("marker-end", "url(#" ++ markerId l.colour ++ ")")] ++
      (if l.dashed then [("stroke-dasharray", "6,3")] else [])) []

/-- The white rectangle behind a label. -/
def LabelShape.backToSvg (l : LabelShape α) : Svg.Node :=
  .element "rect"
    [("x", NumberText.print l.placement.rect.minX), ("y", NumberText.print l.placement.rect.minY),
      ("width", NumberText.print l.size.width), ("height", NumberText.print l.size.height),
      ("fill", "white"), ("opacity", "0.85"), ("rx", "2"), ("ry", "2")] []

/-- The text of a label: one line as it is, several lines as a block. -/
def LabelShape.textToSvg (l : LabelShape α) : Svg.Node :=
  let anchor := l.placement.anchor
  let lines := Text.lines l.text
  let look := [("text-anchor", "middle"), ("font-size", "10"), ("fill", l.colour)]
  let baseline := (labelBaselines anchor l.text).headD anchor.y
  match lines with
  | [line] => Caption.toSvg ⟨anchor.x, baseline, line, look⟩
  | _ => TextBlock.toSvg ⟨anchor.x, baseline, 14, lines, look⟩

def DrawnItem.toSvg : DrawnItem α → Svg.Node
  | box shape => shape.toSvg
  | ports shapes => shapes.toSvg
  | line l => l.toSvg
  | labelBack l => l.backToSvg
  | labelText l => l.textToSvg

namespace Drawing

/-- A line of the heading, centred above the drawing. -/
def headingLine (d : Drawing α) (baseline : α) (content : String) (look : List (String × String)) :
    Svg.Node :=
  Caption.toSvg ⟨d.width / 2.0, baseline, content, ("text-anchor", "middle") :: look⟩

/-- The white ground, the title and the metadata line. -/
def background (d : Drawing α) : LayeredOutput Svg.Node :=
  let ground : Svg.Node := .element "rect"
    [("width", NumberText.print d.width), ("height", NumberText.print d.height), ("fill", "white")] []
  let title := d.title.toList.map fun title =>
    d.headingLine 28.0 title [("font-size", "18"), ("font-weight", "bold"), ("fill", "#1B2A4A")]
  let metadata := d.metadata.toList.map fun summary =>
    d.headingLine 46.0 summary [("font-size", "10"), ("fill", "#888")]
  ⟨(ground :: title ++ metadata).map fun node => (.background, node)⟩

/-- The document of a drawing: background, arrowheads, content, legend. -/
def toSvg (d : Drawing α) : Svg.Node :=
  let width := NumberText.print d.width
  let height := NumberText.print d.height
  let content := Svg.group [translation d.contentOrigin] (d.content.map DrawnItem.toSvg).render
  let legend := d.legend.elim [] fun panel => panel.output.render
  Svg.document
    [("width", width), ("height", height), ("viewBox", "0 0 " ++ width ++ " " ++ height),
      ("font-family", d.font ++ ", Arial, sans-serif")]
    (d.background.render ++ [markerDefinitions d.markerColours, content] ++ legend)

end Drawing

end BoxDiagram
