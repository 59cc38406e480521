/-
Module: BoxDiagram.Layering.Acyclic
Purpose: Arcs that have to be turned round so that no cycle is left, chosen greedily: vertices are arranged in
  a row, sinks from the right and sources and steep vertices from the left, and arcs that run backwards in the
  row are turned.
Main exports: Digraph.arrangement, Digraph.isBackward, Digraph.acyclic
-/
import BoxDiagram.Layering.Digraph

namespace BoxDiagram

/-- A vertex that has no place in the row yet, with its arcs from and to other such vertices counted. -/
structure Unplaced where
  vertex : Nat
  outDegree : Nat
  inDegree : Nat
deriving Repr, DecidableEq, Inhabited

namespace Unplaced

def isSink (p : Unplaced) : Bool := p.outDegree == 0

/-- Something leaves the vertex, but nothing enters it. -/
def isSource (p : Unplaced) : Bool := p.outDegree != 0 && p.inDegree == 0

/-- How many more arcs leave than enter. -/
def steepness (p : Unplaced) : Int := (p.outDegree : Int) - p.inDegree

end Unplaced

/-- What is looked for first in the next step of the arrangement. -/
inductive ArrangePhase where
  | sinks
  | sources
deriving Repr, DecidableEq, Inhabited

/-- One step of the arrangement: the vertex that is placed, at which end, and what is looked for next. -/
structure ArrangeStep where
  vertex : Nat
  atLeft : Bool
  next : ArrangePhase
deriving Repr, DecidableEq, Inhabited

namespace Digraph

/-- The first of the vertices of the greatest steepness among those that are neither sinks nor sources. -/
def steepest? (ps : List Unplaced) : Option Unplaced :=
  (ps.filter fun p => !p.isSink && !p.isSource).foldl
    (fun best p =>
      match best with
      | none => some p
      | some b => if b.steepness < p.steepness then some p else some b)
    none

/-- The step in a phase that takes sources before all else. -/
def sourceStep? (ps : List Unplaced) : Option ArrangeStep :=
  match ps.find? Unplaced.isSource with
  | some p => some ⟨p.vertex, true, .sources⟩
  | none =>
      match steepest? ps with
      | some p => some ⟨p.vertex, true, .sinks⟩
      | none => (ps.find? Unplaced.isSink).map fun p => ⟨p.vertex, false, .sinks⟩

/-- The next step.  Sinks go first until there are none, then sources until there are none, then one steep
vertex. -/
def arrangeStep? (phase : ArrangePhase) (ps : List Unplaced) : Option ArrangeStep :=
  match phase with
  | .sources => sourceStep? ps
  | .sinks =>
      match ps.find? Unplaced.isSink with
      | some p => some ⟨p.vertex, false, .sinks⟩
      | none => sourceStep? ps

/-- Change the entry of a vertex and move it to the front; a vertex that has its place is left alone. -/
def touch (change : Unplaced → Unplaced) (ps : List Unplaced) (v : Nat) : List Unplaced :=
  match ps.find? fun p => p.vertex == v with
  | none => ps
  | some p => change p :: ps.filter fun p => p.vertex != v

/-- Take a vertex out, and its arcs out of the counts of its neighbours. -/
def withdraw (arcs : List Arc) (v : Nat) (ps : List Unplaced) : List Unplaced :=
  let rest := ps.filter fun p => p.vertex != v
  let rest := ((arcs.filter fun a => a.tail == v).map Arc.head).foldl
    (touch fun p => { p with inDegree := p.inDegree - 1 }) rest
  ((arcs.filter fun a => a.head == v).map Arc.tail).foldl
    (touch fun p => { p with outDegree := p.outDegree - 1 }) rest

/-- Arrange vertices from both ends of the row until all have their places. -/
def arrangeFrom (arcs : List Arc) : Nat → ArrangePhase → List Unplaced → List Nat
  | 0, _, _ => []
  | fuel + 1, phase, ps =>
      match arrangeStep? phase ps with
      | none => []
      | some s =>
          let inner := arrangeFrom arcs fuel s.next (withdraw arcs s.vertex ps)
          if s.atLeft then s.vertex :: inner else inner ++ [s.vertex]

/-- The vertices with arcs, each once, in the order in which the arcs name them. -/
def namedVertices (arcs : List Arc) : List Nat :=
  (arcs.flatMap fun a => [a.tail, a.head]).eraseDups

/-- The vertices with arcs in a row in which few arcs run backwards. -/
def arrangement (g : Digraph) : List Nat :=
  let arcs := g.numbered
  let start := (namedVertices arcs).map fun v =>
    Unplaced.mk v (arcs.countP fun a => a.tail == v) (arcs.countP fun a => a.head == v)
  arrangeFrom arcs start.length .sinks start.reverse

/-- Does an arc not run to the right in a row of vertices? -/
def isBackward (row : List Nat) (a : Arc) : Bool := row.idxOf a.head ≤ row.idxOf a.tail

/-- The graph with the backward arcs of its arrangement turned round.  Turned arcs count as new. -/
def acyclic (g : Digraph) : Digraph :=
  let row := g.arrangement
  let backward := g.numbered.filter (isBackward row)
  { g with arcs := (g.arcs.filter fun a => !isBackward row a) ++ backward.map Arc.turned }

end Digraph

end BoxDiagram
