/-
Module: BoxDiagram.Layout.Routing
Purpose: Orthogonal routes for edges between nodes that have their places.
Main exports: orthogonalBends, boundaryAnchor, routeEdge, routeEdges, RoutingFault, routingFaults
-/
import BoxDiagram.Layout.Hierarchy
import BoxDiagram.Layout.Positioned

namespace BoxDiagram

variable {α : Type} [Scalar α]

/-- Why an edge is left out. -/
inductive RoutingFault where
  | noEndpoints (edge : String)
  | unresolved (edge source target : String)
deriving Repr, DecidableEq, Inhabited

/-- Ends that are less than this apart across the flow are joined by a straight line. -/
def alignedTolerance : α := 0.5

/-- The middle of the side of a rectangle that faces a point along the flow. -/
def boundaryAnchor (bounds : Bounds α) (toward : Point α) (horizontal : Bool) : Point α :=
  let middle := bounds.center
  if horizontal then ⟨if middle.x ≤ toward.x then bounds.maxX else bounds.minX, middle.y⟩
  else ⟨middle.x, if middle.y ≤ toward.y then bounds.maxY else bounds.minY⟩

/-- The bends between two points: none if they are aligned, else two halfway along the flow. -/
def orthogonalBends (start stop : Point α) (horizontal : Bool) : List (Point α) :=
  if horizontal then
    if Scalar.magnitude (start.y - stop.y) < alignedTolerance then []
    else
      let middle := (start.x + stop.x) / 2.0
      [⟨middle, start.y⟩, ⟨middle, stop.y⟩]
  else
    if Scalar.magnitude (start.x - stop.x) < alignedTolerance then []
    else
      let middle := (start.y + stop.y) / 2.0
      [⟨start.x, middle⟩, ⟨stop.x, middle⟩]

/-- The rectangles of nodes and the middles of ports, in the drawing. -/
structure Landmarks (α : Type) where
  nodes : List (String × Bounds α)
  ports : List (String × Point α)

namespace Landmarks

/-- The landmarks of a layout, outer nodes first. -/
def ofGraph (g : PositionedGraph α) : Landmarks α :=
  let visits := g.walk
  { nodes := visits.map fun v => (v.node.value.id, .ofTopLeft v.origin v.node.value.size)
    ports := visits.flatMap fun v => v.node.value.ports.map fun p => (p.id, v.origin + p.center) }

/-- The rectangle of the node at the end of a path. -/
def bounds? (l : Landmarks α) (path : List String) : Option (Bounds α) :=
  path.getLast?.bind fun id => lastValue? id l.nodes

end Landmarks

/-- One end of an edge: the path of its node and the rectangle of the node. -/
structure RouteEnd (α : Type) where
  id : String
  path : List String
  bounds : Bounds α

def routeEnd? (h : Hierarchy) (l : Landmarks α) (id : String) : Option (RouteEnd α) := do
  let path ← h.pathOf? id
  let bounds ← l.bounds? path
  return ⟨id, path, bounds⟩

/-- Where an edge touches an end: in the middle of its port, or at the side that faces the other end. -/
def attachment (h : Hierarchy) (l : Landmarks α) (here there : RouteEnd α) (horizontal : Bool) : Point α :=
  match if h.isPort here.id then lastValue? here.id l.ports else none with
  | some p => p
  | none => boundaryAnchor here.bounds there.bounds.center horizontal

/-- Route one edge, relative to the container of its ends. -/
def routeEdge (h : Hierarchy) (l : Landmarks α) (g : PositionedGraph α) (horizontal : Bool) (e : LayoutEdge) :
    Except RoutingFault (PositionedEdge α) :=
  match e.sources.head?, e.targets.head? with
  | some source, some target =>
      match routeEnd? h l source, routeEnd? h l target with
      | some s, some t =>
          let start := attachment h l s t horizontal
          let stop := attachment h l t s horizontal
          let container := lowestCommonContainer s.path t.path
          let origin := g.absoluteOrigin container
          .ok
            { id := e.id
              container := some (container.getD rootId)
              sections := [⟨start - origin, stop - origin,
                (orthogonalBends start stop horizontal).map (· - origin)⟩]
              labels := e.labels }
      | _, _ => .error (.unresolved e.id source target)
  | _, _ => .error (.noEndpoints e.id)

/-- The outcome for every edge of a request over the places of its nodes. -/
def routeOutcomes (request : LayoutGraph α) (placed : PositionedGraph α) (horizontal : Bool) :
    List (Except RoutingFault (PositionedEdge α)) :=
  request.edges.map
    (routeEdge (.ofForest request.children) (.ofGraph placed) placed horizontal)

def routeEdges (request : LayoutGraph α) (placed : PositionedGraph α) (horizontal : Bool) :
    List (PositionedEdge α) :=
  (routeOutcomes request placed horizontal).filterMap Except.toOption

/-- The faults of the edges that are left out. -/
def routingFaults (request : LayoutGraph α) (placed : PositionedGraph α) (horizontal : Bool) :
    List RoutingFault :=
  (routeOutcomes request placed horizontal).filterMap fun
    | .ok _ => none
    | .error f => some f

end BoxDiagram
