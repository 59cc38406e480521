/-
Module: BoxDiagram.Layout.Graph
Purpose: What a layout engine is asked: nodes within nodes, ports, and edges between them.
Main exports: LayoutPort, LayoutNode, LayoutEdge, LayoutGraph, LayoutNode.minimumSize?, LayoutNode.padding?
-/
import BoxDiagram.Diagram.Vocabulary
import BoxDiagram.Layout.Options
import BoxDiagram.Tree

namespace BoxDiagram

/-- The id of the node around all others. -/
def rootId : String := "root"

/-- A port to place. -/
structure LayoutPort (α : Type) where
  id : String
  side : PortSide
  label : String
  width : α
  height : α
  options : LayoutOptions
deriving Repr, Inhabited

/-- A node to place, without the nodes inside it.  Leaves state a size; a node with others inside it gets
its size from them. -/
structure LayoutNode (α : Type) where
  id : String
  labels : List String
  ports : List (LayoutPort α)
  width : Option α
  height : Option α
  options : LayoutOptions
deriving Repr, Inhabited

namespace LayoutNode

variable {α : Type} [Scalar α] [NumberText α]

/-- The least size that the options ask for. -/
def minimumSize? (n : LayoutNode α) : Option (Size α) :=
  (n.options.get? OptionKey.minimumSize).bind parseSize?

/-- The space that the options ask for around the nodes inside. -/
def padding? (n : LayoutNode α) : Option (Insets α) :=
  (n.options.get? OptionKey.padding).bind parseInsets?

end LayoutNode

/-- An edge to route.  Its ends are ids of nodes or of ports. -/
structure LayoutEdge where
  id : String
  sources : List String
  targets : List String
  labels : List String
deriving Repr, DecidableEq, Inhabited

/-- A layout request. -/
structure LayoutGraph (α : Type) where
  id : String
  options : LayoutOptions
  children : List (Tree (LayoutNode α))
  edges : List LayoutEdge
deriving Repr, Inhabited

namespace LayoutGraph

variable {α : Type}

/-- All nodes with what is inside them, outer nodes first. -/
def allNodes (g : LayoutGraph α) : List (Tree (LayoutNode α)) :=
  g.children.flatMap fun t => Tree.visit [t]

def findNode? (g : LayoutGraph α) (id : String) : Option (Tree (LayoutNode α)) :=
  g.allNodes.find? fun t => t.value.id = id

def findPort? (g : LayoutGraph α) (id : String) : Option (LayoutPort α) :=
  (g.allNodes.flatMap fun t => t.value.ports).find? fun p => p.id = id

end LayoutGraph

end BoxDiagram
