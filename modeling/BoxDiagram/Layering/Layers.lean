/-
Module: BoxDiagram.Layering.Layers
Purpose: A levelled graph as a stack of layers.  An arc across several levels is cut into arcs of length one by
  waypoints, and the vertices of each layer get a first order.
Main exports: LevelledGraph, LevelledGraph.cut, LevelledGraph.firstLayers
-/
import BoxDiagram.Layering.Levels

namespace BoxDiagram

/-- The vertices of a layer in their order along it. -/
abbrev Row := List Nat

/-- A graph with levels.  Vertices in `waypoints` stand only for a place where a long arc passes. -/
structure LevelledGraph where
  graph : Digraph
  levels : Levels
  waypoints : List Nat
deriving Repr, Inhabited

namespace LevelledGraph

/-! ### Waypoints -/

/-- Numbers below the bound of a graph that are no vertices of it, the greatest first. -/
def vacancies (g : Digraph) : List Nat :=
  ((List.range g.bound).filter fun v => !g.vertices.contains v).reverse

/-- A graph in which some arcs have been cut, and the numbers that are free for waypoints. -/
structure Cutting where
  levels : Levels
  waypoints : List Nat
  arcs : List Arc
  vacant : List Nat
deriving Repr, Inhabited

/-- Add one waypoint at a level.  It takes the first vacant number, or else a new one. -/
def Cutting.waypoint (c : Cutting) (level : Int) : Nat × Cutting :=
  match c.vacant with
  | v :: vacant =>
      (v, { c with
            levels := c.levels.setIfInBounds v level
            waypoints := v :: c.waypoints
            vacant := vacant })
  | [] =>
      (c.levels.size, { c with
                        levels := c.levels.push level
                        waypoints := c.levels.size :: c.waypoints })

/-- The arcs from `tail` through `count` waypoints, one level after the other, to the head of an arc. -/
def Cutting.chain (a : Arc) : Nat → Nat → Int → Cutting → Cutting
  | 0, tail, _, c => { c with arcs := c.arcs ++ [⟨a.number, tail, a.head⟩] }
  | count + 1, tail, level, c =>
      let (v, c) := c.waypoint (level + 1)
      Cutting.chain a count v (level + 1) { c with arcs := c.arcs ++ [⟨a.number, tail, v⟩] }

/-- Cut an arc into arcs of length one; a short arc is left alone. -/
def Cutting.cutArc (c : Cutting) (a : Arc) : Cutting :=
  let extra := (c.levels.slack a).toNat
  if extra == 0 then c
  else Cutting.chain a extra a.tail (c.levels.of a.tail) { c with arcs := c.arcs.filter fun b => b != a }

/-- Cut all long arcs of a graph, in the order of their numbers. -/
def cut (g : Digraph) (levels : Levels) : LevelledGraph :=
  let c := g.numbered.foldl Cutting.cutArc ⟨levels, [], g.arcs, vacancies g⟩
  { graph :=
      { bound := c.levels.size
        vertices := (List.range c.levels.size).filter fun v =>
          g.vertices.contains v || c.waypoints.contains v
        arcs := c.arcs }
    levels := c.levels
    waypoints := c.waypoints }

/-! ### First order -/

/-- The vertices in depth-first order from a stack. -/
def depthFirst (g : Digraph) : Nat → List Nat → List Nat → List Nat
  | 0, _, _ => []
  | _ + 1, [], _ => []
  | fuel + 1, v :: stack, seen =>
      if seen.contains v then depthFirst g fuel stack seen
      else v :: depthFirst g fuel ((g.outgoing v).map Arc.head ++ stack) (v :: seen)

/-- The layers from the lowest level up, each in the order of a depth-first visit. -/
def firstLayers (l : LevelledGraph) : List Row :=
  let order := depthFirst l.graph (l.graph.vertices.length + l.graph.arcs.length + 1) l.graph.vertices []
  let height := order.foldl (fun h v => max h ((l.levels.of v).toNat + 1)) 0
  (List.range height).map fun (k : Nat) => order.filter fun v => l.levels.of v == Int.ofNat k

end LevelledGraph

end BoxDiagram
