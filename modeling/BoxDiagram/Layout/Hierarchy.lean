/-
Module: BoxDiagram.Layout.Hierarchy
Purpose: Where the nodes of a layout request stand: the path of ids from the outermost node down to each node,
  and the owner of each port.
Main exports: Hierarchy, Hierarchy.ofForest, Hierarchy.pathOf?, Hierarchy.isPort, lowestCommonContainer
-/
import BoxDiagram.Layout.Graph

namespace BoxDiagram

variable {α : Type}

/-- Paths of nodes and owners of ports.  Of several entries for one id the last one counts. -/
structure Hierarchy where
  paths : List (String × List String)
  owners : List (String × String)
deriving Repr, DecidableEq, Inhabited

/-- The last value of a key in a list of pairs. -/
def lastValue? {β : Type} (key : String) (entries : List (String × β)) : Option β :=
  (entries.reverse.find? fun e => e.1 == key).map (·.2)

mutual

/-- The paths of a node below `parent` and of all nodes inside it, inner nodes first. -/
def pathsOfTree (parent : List String) : Tree (LayoutNode α) → List (String × List String)
  | .node n cs =>
      let path := parent ++ [n.id]
      pathsOfForest path cs ++ [(n.id, path)]

/-- The paths of the nodes of a list and of all nodes inside them. -/
def pathsOfForest (parent : List String) : List (Tree (LayoutNode α)) → List (String × List String)
  | [] => []
  | t :: ts => pathsOfTree parent t ++ pathsOfForest parent ts

end

namespace Hierarchy

/-- The owners of all ports, outer nodes first. -/
def portOwners (forest : List (Tree (LayoutNode α))) : List (String × String) :=
  (Tree.preorderForest forest).flatMap fun t => t.value.ports.map fun p => (p.id, t.value.id)

/-- The hierarchy of the nodes of a list. -/
def ofForest (forest : List (Tree (LayoutNode α))) : Hierarchy :=
  ⟨pathsOfForest [] forest, portOwners forest⟩

def isPort (h : Hierarchy) (id : String) : Bool := (lastValue? id h.owners).isSome

/-- The path of the node that an id belongs to: the owner of the port with this id, or the node itself. -/
def pathOf? (h : Hierarchy) (id : String) : Option (List String) :=
  lastValue? ((lastValue? id h.owners).getD id) h.paths

end Hierarchy

/-- The longest list that both lists start with. -/
def commonPrefix : List String → List String → List String
  | a :: as, b :: bs => if a = b then a :: commonPrefix as bs else []
  | _, _ => []

/-- The deepest node around both ends of an edge that is neither of them; `none` is the root. -/
def lowestCommonContainer (source target : List String) : Option String :=
  let common := commonPrefix source target
  let depth := if common.length = source.length ∨ common.length = target.length then common.length - 1
    else common.length
  (common.take depth).getLast?

end BoxDiagram
