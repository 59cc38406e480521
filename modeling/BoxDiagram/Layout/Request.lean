/-
Module: BoxDiagram.Layout.Request
Purpose: The layout request of a diagram: a node for every box, sized by its text, a side for every port, and
  the spacings of the configuration as options.
Main exports: layoutRequest, portSide, directionName, portSize, compoundPadding
-/
import BoxDiagram.Config.Basic
import BoxDiagram.Diagram.Basic
import BoxDiagram.Layout.Graph
import BoxDiagram.Layout.LeafSize

namespace BoxDiagram

variable {α : Type} [Scalar α] [NumberText α]

def portSize : α := 8.0

/-- Space inside a box around the boxes in it; the title stands in the upper part. -/
def compoundPadding : Insets α := ⟨70.0, 24.0, 60.0, 24.0⟩

/-- The layout direction of a flow.  An unknown flow runs to the right. -/
def directionName : FlowDirection → String
  | .leftToRight | .unknown _ => "RIGHT"
  | .rightToLeft => "LEFT"
  | .topToBottom => "DOWN"
  | .bottomToTop => "UP"

/-- The side of a port.  Without one of its own, an input faces the incoming flow and any other port the
outgoing one. -/
def portSide (p : Port) (flow : FlowDirection) : PortSide :=
  match p.side with
  | some side => side
  | none =>
      match p.direction, flow.isHorizontal with
      | .input, true => .west
      | .input, false => .north
      | _, true => .east
      | _, false => .south

def portRequest (b : Box) (flow : FlowDirection) (p : Port) : LayoutPort α :=
  let side := portSide p flow
  { id := (b.id.port p.id).text
    side := side
    label := p.label
    width := portSize
    height := portSize
    options := .ofList [(OptionKey.portSide, side.optionValue)] }

/-- The options that say how the ports of a box are arranged; none if there are no ports. -/
def portOptions (b : Box) : List (String × String) :=
  if b.ports.isEmpty then []
  else
    [(OptionKey.portConstraints, "FIXED_SIDE"),
      (OptionKey.portAlignment, "DISTRIBUTED"),
      (OptionKey.portSpacing, "20"),
      (OptionKey.portLabels, "OUTSIDE"),
      (OptionKey.portLabelsNextToPort, "true"),
      (OptionKey.portsSurrounding, insetsText (Insets.uniform (10.0 : α)))]

/-- The options that say how large a box is: the padding of a box with others in it, the least size of a
leaf. -/
def sizeOptions (t : Tree Box) : List (String × String) :=
  if t.isCompound then [(OptionKey.padding, insetsText (compoundPadding : Insets α))]
  else
    [(OptionKey.sizeConstraints, "MINIMUM_SIZE"),
      (OptionKey.minimumSize, sizeText (leafSize t : Size α))]

/-- The request for one box; what is inside it follows as children. -/
def nodeRequest (flow : FlowDirection) (t : Tree Box) : LayoutNode α :=
  let size : Size α := leafSize t
  { id := t.value.id.text
    labels := [t.value.label]
    ports := t.value.ports.map (portRequest t.value flow)
    width := if t.isCompound then none else some size.width
    height := if t.isCompound then none else some size.height
    options := .ofList (portOptions (α := α) t.value ++ sizeOptions (α := α) t) }

/-- The request for the edge at a position of the list of edges. -/
def edgeRequest (index : Nat) (e : Edge) : LayoutEdge :=
  { id := "e" ++ toString index
    sources := [e.source.nodeId.text]
    targets := [e.target.nodeId.text]
    labels := e.label.toList }

def rootOptions (flow : FlowDirection) (config : LayoutConfig α) : LayoutOptions :=
  .ofList [
    (OptionKey.algorithm, "layered"),
    (OptionKey.direction, directionName flow),
    (OptionKey.hierarchyHandling, "INCLUDE_CHILDREN"),
    (OptionKey.edgeRouting, "ORTHOGONAL"),
    (OptionKey.favorStraightEdges, "true"),
    (OptionKey.nodeSpacing, NumberText.print config.nodeSpacing),
    (OptionKey.layerSpacing, NumberText.print config.layerSpacing),
    (OptionKey.componentSpacing, NumberText.print config.componentSpacing),
    (OptionKey.edgeNodeSpacing, NumberText.print config.edgeNodeSpacing),
    (OptionKey.edgeEdgeSpacing, NumberText.print config.edgeEdgeSpacing),
    (OptionKey.edgeNodeBetweenLayers, NumberText.print config.edgeNodeBetweenLayers),
    (OptionKey.edgeEdgeBetweenLayers, NumberText.print config.edgeEdgeBetweenLayers),
    (OptionKey.edgeLabelSpacing, NumberText.print config.edgeLabelSpacing),
    (OptionKey.edgeLabelSide, "SMART_UP"),
    (OptionKey.edgeLabelCenter, "MEDIAN_LAYER"),
    (OptionKey.crossingMinimization, "LAYER_SWEEP"),
    (OptionKey.greedySwitch, "TWO_SIDED"),
    (OptionKey.greedySwitchHierarchical, "TWO_SIDED"),
    (OptionKey.thoroughness, "7"),
    (OptionKey.nodePlacement, "BRANDES_KOEPF"),
    (OptionKey.blockAlignment, "BALANCED"),
    (OptionKey.postCompaction, "EDGE_LENGTH"),
    (OptionKey.connectedComponents, "true")]

/-- The layout request of a diagram.  Whether the ends of edges exist is left to validation. -/
def layoutRequest (d : Diagram α) (config : LayoutConfig α) : LayoutGraph α :=
  { id := rootId
    options := rootOptions d.flow config
    children := Tree.mapForest (nodeRequest d.flow) d.boxes
    edges := d.edges.zipIdx.map fun (e, index) => edgeRequest index e }

end BoxDiagram
