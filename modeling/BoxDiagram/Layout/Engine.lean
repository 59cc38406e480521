/-
Module: BoxDiagram.Layout.Engine
Purpose: Layout engines, and the one that is built in: layers along the flow, orthogonal routes.
Main exports: LayoutEngine, LayoutEngine.layered, LayoutEngine.builtin, LayoutEngine.failing,
  LayoutEngine.constant
-/
import BoxDiagram.Layout.Placement
import BoxDiagram.Layout.Routing

namespace BoxDiagram

variable {α κ : Type} [Scalar α] [NumberText α] [Coordinate κ]

/-- A way to lay out requests.  It answers with a layout or the text of a failure; `faults` tells which edges
a layout leaves out. -/
structure LayoutEngine (α : Type) where
  layout : LayoutGraph α → Except String (PositionedGraph α)
  faults : LayoutGraph α → PositionedGraph α → List RoutingFault

/-- The direction that a request asks for. -/
def LayoutGraph.direction (g : LayoutGraph α) : Direction :=
  .ofOption (g.options.get? OptionKey.direction)

/-- The placement of the nodes of a request. -/
def LayoutGraph.placement (g : LayoutGraph α) (layering : Layering κ) : Placement α κ :=
  { layering := layering
    hierarchy := .ofForest g.children
    edges := g.edges
    direction := g.direction
    spacing := .ofOptions g.options }

/-- The nodes of a request at their places, without edges. -/
def placeNodes (layering : Layering κ) (g : LayoutGraph α) : Except String (PositionedGraph α) := do
  let p := g.placement layering
  let (children, size) ← p.arrange [] (← p.placeForest [] g.children)
  return { width := size.width, height := size.height, children := children, edges := [] }

/-- Lay out a request: first the nodes, then the edges over them. -/
def layeredLayout (layering : Layering κ) (g : LayoutGraph α) : Except String (PositionedGraph α) := do
  let placed ← placeNodes layering g
  return { placed with edges := routeEdges g placed g.direction.isHorizontal }

namespace LayoutEngine

def layered (layering : Layering κ) : LayoutEngine α where
  layout := layeredLayout layering
  faults g placed := routingFaults g placed g.direction.isHorizontal

/-- The layering with this space between vertices. -/
def layering (vertexSpacing : Float) : Layering Float := fun edges =>
  (layeredCoordinates vertexSpacing edges).mapError LayeringFault.message

/-- The space between vertices in a layering.  Only the order of coordinates counts. -/
def standardVertexSpacing : Float := 10

def builtin : LayoutEngine α := layered (layering standardVertexSpacing)

def failing (text : String) : LayoutEngine α where
  layout _ := .error text
  faults _ _ := []

/-- An engine that always answers with the same layout. -/
def constant (g : PositionedGraph α) : LayoutEngine α where
  layout _ := .ok g
  faults _ _ := []

end LayoutEngine

end BoxDiagram
