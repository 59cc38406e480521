/-
Module: BoxDiagram.Layering.Levels
Purpose: Levels for the vertices of an acyclic graph, so that arcs run from lower to higher levels and are
  short in total.  A spanning tree of arcs of length one is built from the levels of longest paths, and then
  improved by exchanging one tree arc after the other (network simplex).
Main exports: Levels, Digraph.levels?
-/
import BoxDiagram.Layering.Digraph

namespace BoxDiagram

/-- The level of every vertex. -/
abbrev Levels := Array Int

namespace Levels

def of (r : Levels) (v : Nat) : Int := r.getD v 0

/-- How much longer than one level an arc is. -/
def slack (r : Levels) (a : Arc) : Int := r.of a.head - r.of a.tail - 1

/-- Add to the levels of some vertices. -/
def shift (r : Levels) (vertices : List Nat) (amount : Int) : Levels :=
  vertices.foldl (fun r v => r.setIfInBounds v (r.of v + amount)) r

end Levels

namespace Digraph

/-! ### Levels of longest paths -/

/-- One more than the highest level below each vertex. -/
def liftLevels (g : Digraph) (r : Levels) : Levels :=
  g.arcs.foldl (fun next a => next.setIfInBounds a.head (max (next.of a.head) (r.of a.tail + 1)))
    (Array.replicate g.bound 0)

/-- Lift levels until they stay the same, at most `fuel` times. -/
def liftUntilStable (g : Digraph) : Nat → Levels → Levels
  | 0, r => r
  | fuel + 1, r =>
      let lifted := g.liftLevels r
      if lifted == r then r else g.liftUntilStable fuel lifted

/-- The level of a vertex is the length of the longest path to it. -/
def longestPathLevels (g : Digraph) : Levels :=
  g.liftUntilStable (g.vertices.length + 1) (Array.replicate g.bound 0)

/-! ### A tree of tight arcs -/

/-- A tree under construction. -/
structure TightTree where
  vertices : List Nat
  arcs : List Arc
deriving Repr, DecidableEq, Inhabited

/-- The arcs at a vertex with their other ends: those that leave it, then those that enter it. -/
def neighbours (g : Digraph) (v : Nat) : List (Arc × Nat) :=
  (g.outgoing v).map (fun a => (a, a.head)) ++ (g.incoming v).map fun a => (a, a.tail)

/-- Follow arcs of length one in depth.  Every arc comes up at most twice, once from each end. -/
def followTight (g : Digraph) (r : Levels) : Nat → List (Arc × Nat) → TightTree → TightTree
  | 0, _, tree => tree
  | _ + 1, [], tree => tree
  | fuel + 1, (a, v) :: stack, tree =>
      if !tree.vertices.contains v && r.slack a == 0 then
        g.followTight r fuel (g.neighbours v ++ stack) ⟨v :: tree.vertices, a :: tree.arcs⟩
      else g.followTight r fuel stack tree

/-- The tree of arcs of length one around the least vertex. -/
def tightTree (g : Digraph) (r : Levels) : TightTree :=
  match g.vertices with
  | [] => ⟨[], []⟩
  | root :: _ => g.followTight r (2 * g.arcs.length + 1) (g.neighbours root) ⟨[root], []⟩

def leastSlack? (r : Levels) (arcs : List Arc) : Option Arc :=
  arcs.foldl
    (fun best a =>
      match best with
      | none => some a
      | some b => if r.slack a < r.slack b then some a else some b)
    none

/-- Move the tree until a spanning tree is tight.  Every move makes one more arc tight. -/
def spanTight (g : Digraph) : Nat → Levels → Levels × TightTree
  | 0, r => (r, g.tightTree r)
  | fuel + 1, r =>
      let tree := g.tightTree r
      if tree.vertices.length == g.vertices.length then (r, tree)
      else
        let leaving := g.numbered.filter fun a =>
          tree.vertices.contains a.tail != tree.vertices.contains a.head
        match leastSlack? r leaving with
        | none => (r, tree)
        | some a =>
            let distance := r.slack a
            let step := if tree.vertices.contains a.head then -distance else distance
            g.spanTight fuel (r.shift tree.vertices step)

/-! ### Exchanging tree arcs -/

/-- The vertices on the side of the tail when an arc is taken out of the tree. -/
def tailSide (g : Digraph) (tree : List Arc) (a : Arc) : List Nat :=
  { g with arcs := tree.filter fun b => b.number != a.number }.componentOf a.tail

/-- How many more arcs run from one side to the other than back. -/
def cutValue (g : Digraph) (side : List Nat) : Int :=
  g.arcs.foldl
    (fun n a =>
      match side.contains a.tail, side.contains a.head with
      | true, false => n + 1
      | false, true => n - 1
      | _, _ => n)
    0

/-- The levels of a tree whose arcs all have length one, with its root at level zero. -/
def treeLevels (g : Digraph) (tree : List Arc) : Levels :=
  let spread (known : List (Nat × Int)) : List (Nat × Int) :=
    tree.foldl
      (fun known a =>
        match known.lookup a.tail, known.lookup a.head with
        | some n, none => (a.head, n + 1) :: known
        | none, some n => (a.tail, n - 1) :: known
        | _, _ => known)
      known
  let known := Nat.repeat spread g.vertices.length ((g.vertices.take 1).map fun v => (v, 0))
  known.foldl (fun r (v, n) => r.setIfInBounds v n) (Array.replicate g.bound 0)

/-- Exchange tree arcs with a negative cut value until there are none.  The arc with the least number leaves,
and of the arcs that run back across the cut the first of least slack enters. -/
def exchange (g : Digraph) : Nat → List Arc → Levels → Option Levels
  | 0, _, _ => none
  | fuel + 1, tree, r =>
      let leaving := g.numbered.find? fun a =>
        tree.any (fun b => b.number == a.number) && g.cutValue (g.tailSide tree a) < 0
      match leaving with
      | none => some r
      | some a =>
          let side := g.tailSide tree a
          let entering := g.numbered.filter fun b => !side.contains b.tail && side.contains b.head
          match leastSlack? r entering with
          | none => some r
          | some b =>
              let tree := b :: tree.filter fun c => c.number != a.number
              g.exchange fuel tree (g.treeLevels tree)

/-- How many exchanges are tried for a graph. -/
def exchangeLimit (g : Digraph) : Nat := 100 + 10 * (g.vertices.length + g.arcs.length)

/-- The levels moved so that the lowest of the graph is zero. -/
def normalise (g : Digraph) (r : Levels) : Levels :=
  match g.vertices with
  | [] => r
  | v :: rest =>
      let lowest := rest.foldl (fun m w => min m (r.of w)) (r.of v)
      r.shift g.vertices (-lowest)

/-- Short levels for an acyclic connected graph; `none` if the exchanges come to no end. -/
def levels? (g : Digraph) : Option Levels :=
  let (r, tree) := g.spanTight g.vertices.length g.longestPathLevels
  (g.exchange g.exchangeLimit tree.arcs r).map g.normalise

end Digraph

end BoxDiagram
