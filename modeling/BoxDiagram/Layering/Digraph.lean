/-
Module: BoxDiagram.Layering.Digraph
Purpose: Directed graphs whose arcs remember when they came in, and their weakly connected components.
Main exports: Arc, Digraph, Digraph.ofEdges, Digraph.outgoing, Digraph.incoming, Digraph.components
-/

namespace BoxDiagram

/-- An arc between two vertices.  Its number is its place in the list of edges that the graph was made
from, and stays the same when the arc is turned round. -/
structure Arc where
  number : Nat
  tail : Nat
  head : Nat
deriving Repr, DecidableEq, Inhabited

def Arc.turned (a : Arc) : Arc := ⟨a.number, a.head, a.tail⟩

/-- A directed graph: its vertices in increasing order, and its arcs, oldest first.  `bound` is above every
vertex of the graph that this one is a part of. -/
structure Digraph where
  bound : Nat
  vertices : List Nat
  arcs : List Arc
deriving Repr, DecidableEq, Inhabited

namespace Digraph

/-- The graph with these edges.  Its vertices are all numbers up to the largest end of an edge. -/
def ofEdges (edges : List (Nat × Nat)) : Digraph :=
  let bound := edges.foldl (fun n e => max n (max e.1 e.2 + 1)) 0
  { bound := bound
    vertices := List.range bound
    arcs := edges.zipIdx.map fun (e, i) => ⟨i, e.1, e.2⟩ }

/-- The arcs that leave a vertex, newest first. -/
def outgoing (g : Digraph) (v : Nat) : List Arc := (g.arcs.filter fun a => a.tail == v).reverse

/-- The arcs that enter a vertex, newest first. -/
def incoming (g : Digraph) (v : Nat) : List Arc := (g.arcs.filter fun a => a.head == v).reverse

/-- The arcs in the order of their numbers. -/
def numbered (g : Digraph) : List Arc := g.arcs.mergeSort fun a b => a.number ≤ b.number

/-! ### Components -/

/-- The vertices that are in a list or joined by an arc to a vertex in it. -/
def widen (g : Digraph) (seen : List Nat) : List Nat :=
  g.vertices.filter fun v =>
    seen.contains v || g.arcs.any fun a =>
      (a.tail == v && seen.contains a.head) || (a.head == v && seen.contains a.tail)

/-- Widen a list of vertices until it stays the same, at most `fuel` times. -/
def closure (g : Digraph) : Nat → List Nat → List Nat
  | 0, seen => seen
  | fuel + 1, seen =>
      let wider := g.widen seen
      if wider.length == seen.length then seen else g.closure fuel wider

/-- The vertices joined to `v` by arcs in any direction. -/
def componentOf (g : Digraph) (v : Nat) : List Nat := g.closure g.vertices.length [v]

/-- The components of the vertices that are still to be seen. -/
def componentsFrom (g : Digraph) : List Nat → List (List Nat)
  | [] => []
  | v :: rest =>
      let component := g.componentOf v
      component :: g.componentsFrom (rest.filter fun w => !component.contains w)
termination_by pending => pending.length
decreasing_by
  simp only [List.length_unattach, List.length_cons]
  exact Nat.lt_succ_of_le (Nat.le_trans (List.length_filter_le _ _) (by simp))

/-- The part of a graph on some of its vertices. -/
def restrict (g : Digraph) (vertices : List Nat) : Digraph :=
  { g with
    vertices := vertices
    arcs := g.arcs.filter fun a => vertices.contains a.tail }

/-- The weakly connected components, in the order of their least vertices. -/
def components (g : Digraph) : List Digraph := (g.componentsFrom g.vertices).map g.restrict

end Digraph

end BoxDiagram
