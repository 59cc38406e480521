/-
Module: BoxDiagram.Proofs.TraversalOrder
Purpose: The order in which the boxes of a diagram and the nodes of a layout request are gone through, call by call and
  as a whole, and what follows for the table of ports and for the search for an id.
Main exports: Tree.Traversal.InPreorder, Tree.Traversal.inPreorder, Box.portEntries, traversals_inPreorder
-/
import BoxDiagram.Diagram.Basic
import BoxDiagram.Proofs.Enumeration
import BoxDiagram.Proofs.Listing
import BoxDiagram.Proofs.RequestNodes
import BoxDiagram.Proofs.StackTraversal

namespace BoxDiagram

variable {α : Type}

namespace Tree.Traversal

/-- The calls to a traversal are answered with the subtrees of the forest in the recursive order: a tree, then those of
its children, then those of the trees after it.  This visits every address once, and when there have been as many calls
as there are nodes, no call is answered any more. -/
structure InPreorder (s : Traversal α) (forest : List (Tree α)) : Prop where
  recursive : s.Yields (preorderForest forest)
  eachOnce : Enumerates (· < ·) (subtreeAt? forest) (preorderForest forest)
  ends : ∀ k, s.answer k = none ↔ countForest forest ≤ k

/-- At any time, a traversal goes on in preorder through the subtrees on its stack. -/
theorem inPreorder (s : Traversal α) : s.InPreorder s.pending where
  recursive := yields_iff.mpr rfl
  eachOnce := enumerates_preorderForest s.pending
  ends k := by rw [answer_eq, List.getElem?_eq_none_iff, remaining, length_preorderForest]

theorem ofForest_inPreorder (roots : List (Tree α)) : (ofForest roots).InPreorder roots := by
  simpa using inPreorder (ofForest roots)

theorem ofTree_inPreorder (t : Tree α) : (ofTree t).InPreorder [t] := by
  simpa using inPreorder (ofTree t)

/-- Visiting a forest as a whole gives the answers to all calls. -/
theorem ofForest_yields_visit (roots : List (Tree α)) : (ofForest roots).Yields (visit roots) := by
  rw [visit_eq_preorderForest]
  exact (ofForest_inPreorder roots).recursive

end Tree.Traversal

/-- The ports of a box as entries of the port table. -/
def Box.portEntries (t : Tree Box) : List PortEntry :=
  t.value.ports.map fun p => ⟨t.value.name, p.label, p.direction⟩

/-- A diagram's ports are listed by the boxes in preorder and for each box as it declares them. -/
theorem Diagram.enumerates_allPorts (d : Diagram α) :
    Enumerates (Prod.Lex (· < ·) (· < ·)) (entryAt? (Tree.subtreeAt? d.boxes) Box.portEntries) d.allPorts := by
  have boxes : Enumerates (· < ·) (Tree.subtreeAt? d.boxes) d.allBoxes := by
    rw [Diagram.allBoxes, Tree.visit_eq_preorderForest]
    exact Tree.enumerates_preorderForest d.boxes
  exact boxes.flatMap Box.portEntries

theorem LayoutGraph.enumerates_allNodes (g : LayoutGraph α) :
    Enumerates (· < ·) (Tree.subtreeAt? g.children) g.allNodes := by
  rw [LayoutGraph.allNodes_eq]
  exact Tree.enumerates_preorderForest g.children

/-- Boxes and layout nodes are visited in preorder by the traversals with a stack, of a forest as of a single tree.  All
boxes of a diagram are those that its traversal yields, and all nodes of a request those that the traversals of its
outermost nodes yield one after the other, so they are in preorder and each once as well.  The ports of a diagram are
therefore listed each once, by box and then as declared, and a search for the id of a node or of a port finds the first
one with it. -/
theorem traversals_inPreorder (d : Diagram α) (g : LayoutGraph α) :
    (∀ boxes : List (Tree Box), (Tree.Traversal.ofForest boxes).InPreorder boxes) ∧
    (∀ box : Tree Box, (Tree.Traversal.ofTree box).InPreorder [box]) ∧
    (∀ node : Tree (LayoutNode α), (Tree.Traversal.ofTree node).InPreorder [node]) ∧
    (Tree.Traversal.ofForest d.boxes).Yields d.allBoxes ∧
    g.allNodes = (g.children.flatMap fun node => Tree.preorderForest [node]) ∧
    g.allNodes = Tree.preorderForest g.children ∧
    Enumerates (· < ·) (Tree.subtreeAt? g.children) g.allNodes ∧
    Enumerates (Prod.Lex (· < ·) (· < ·)) (entryAt? (Tree.subtreeAt? d.boxes) Box.portEntries) d.allPorts ∧
    (∀ id, FirstMatch (· < ·) (Tree.subtreeAt? g.children) (fun node => node.value.id = id) (g.findNode? id)) ∧
    ∀ id, FirstMatch (Prod.Lex (· < ·) (· < ·)) (entryAt? (Tree.subtreeAt? g.children) fun node => node.value.ports)
      (fun port => port.id = id) (g.findPort? id) := by
  refine ⟨Tree.Traversal.ofForest_inPreorder, Tree.Traversal.ofTree_inPreorder, Tree.Traversal.ofTree_inPreorder,
    Tree.Traversal.ofForest_yields_visit d.boxes, ?_, g.allNodes_eq, g.enumerates_allNodes, d.enumerates_allPorts,
    ?_, ?_⟩
  · simp only [LayoutGraph.allNodes, Tree.visit_eq_preorderForest]
  · intro id
    exact g.enumerates_allNodes.firstMatch_find? fun node => node.value.id = id
  · intro id
    exact (g.enumerates_allNodes.flatMap fun node => node.value.ports).firstMatch_find? fun port => port.id = id

end BoxDiagram
