/-
Module: BoxDiagram.Layout.Positioned
Purpose: What a layout engine answers: every node, port and edge with its place.
Main exports: PositionedPort, PositionedNode, EdgeSection, PositionedEdge, PositionedGraph,
  PositionedGraph.walk, PositionedGraph.absoluteOrigin
-/
import BoxDiagram.Geometry
import BoxDiagram.Layout.Graph
import BoxDiagram.Tree

namespace BoxDiagram

/-- A port, relative to its node. -/
structure PositionedPort (α : Type) where
  id : String
  x : α
  y : α
  width : α
  height : α
deriving Repr, Inhabited

/-- A node, relative to the node around it. -/
structure PositionedNode (α : Type) where
  id : String
  x : α
  y : α
  width : α
  height : α
  labels : List String
  ports : List (PositionedPort α)
deriving Repr, Inhabited

/-- One piece of a routed edge. -/
structure EdgeSection (α : Type) where
  start : Point α
  stop : Point α
  bends : List (Point α)
deriving Repr

/-- A routed edge.  Its points are relative to the node named by `container`, or to the origin of the drawing
if that is the root or missing. -/
structure PositionedEdge (α : Type) where
  id : String
  container : Option String
  sections : List (EdgeSection α)
  labels : List String
deriving Repr, Inhabited

/-- A finished layout. -/
structure PositionedGraph (α : Type) where
  width : α
  height : α
  children : List (Tree (PositionedNode α))
  edges : List (PositionedEdge α)
deriving Repr, Inhabited

/-- A node met on a walk, with its place in the drawing and the number of nodes around it. -/
structure Visit (α : Type) where
  node : Tree (PositionedNode α)
  origin : Point α
  depth : Nat
deriving Repr

variable {α : Type} [Scalar α]

/-- The middle of a port, relative to its node. -/
def PositionedPort.center (p : PositionedPort α) : Point α :=
  ⟨p.x + p.width / 2.0, p.y + p.height / 2.0⟩

namespace PositionedNode

def corner (n : PositionedNode α) : Point α := ⟨n.x, n.y⟩

def size (n : PositionedNode α) : Size α := ⟨n.width, n.height⟩

def bounds (n : PositionedNode α) : Bounds α := .ofTopLeft n.corner n.size

end PositionedNode

/-- Start, bends and end of a section, all moved by `offset`. -/
def EdgeSection.points (s : EdgeSection α) (offset : Point α) : List (Point α) :=
  (s.start :: s.bends ++ [s.stop]).map (· + offset)

mutual

/-- Visit a node at `origin` and everything inside it. -/
def walkTree (origin : Point α) (depth : Nat) : Tree (PositionedNode α) → List (Visit α)
  | .node n cs =>
      let here := origin + n.corner
      ⟨.node n cs, here, depth⟩ :: walkForest here (depth + 1) cs

/-- Visit the nodes of a list and everything inside them, in order. -/
def walkForest (origin : Point α) (depth : Nat) : List (Tree (PositionedNode α)) → List (Visit α)
  | [] => []
  | t :: ts => walkTree origin depth t ++ walkForest origin depth ts

end

mutual

/-- The place of the first node with this id in a tree at `origin`. -/
def findOriginTree? (id : String) (origin : Point α) : Tree (PositionedNode α) → Option (Point α)
  | .node n cs =>
      let here := origin + n.corner
      if n.id = id then some here else findOriginForest? id here cs

/-- The place of the first node with this id in the trees of a list. -/
def findOriginForest? (id : String) (origin : Point α) :
    List (Tree (PositionedNode α)) → Option (Point α)
  | [] => none
  | t :: ts =>
      match findOriginTree? id origin t with
      | some found => some found
      | none => findOriginForest? id origin ts

end

namespace PositionedGraph

/-- All nodes with their places in the drawing, outer nodes first. -/
def walk (g : PositionedGraph α) : List (Visit α) := walkForest Point.origin 0 g.children

/-- The place of the node that a container names.  No container, the root and an unknown id are the origin
of the drawing. -/
def absoluteOrigin (g : PositionedGraph α) (container : Option String) : Point α :=
  match container with
  | none => Point.origin
  | some id => if id = rootId then Point.origin else (findOriginForest? id Point.origin g.children).getD Point.origin

end PositionedGraph

end BoxDiagram
