/-
Module: BoxDiagram.Layout.Ranks
Purpose: The children of a container in layers.  A layering gives coordinates to the children that edges join;
  children with one y form a layer, and the layers run along the majority of the edges.
Main exports: Ranks, ranksOfCoordinates, Layering, rankChildren
-/
import BoxDiagram.Layering.Coordinates
import BoxDiagram.Layout.Coordinate

namespace BoxDiagram

/-- The layers of one connected component, each with the numbers of its children in order. -/
abbrev Ranks := List (List Nat)

/-- A way to give coordinates to the ends of edges, one list for each component, or to fail with a text. -/
abbrev Layering (κ : Type) := List (Nat × Nat) → Except String (List (List (PlacedVertex κ)))

variable {κ : Type} [Coordinate κ]

/-- Drop every coordinate that is close to the last one kept. -/
def dropClose : List κ → List κ
  | [] => []
  | y :: rest => y :: go y rest
where
  /-- The coordinates to keep after `last`. -/
  go (last : κ) : List κ → List κ
    | [] => []
    | y :: rest => if Coordinate.close y last then go last rest else y :: go y rest

/-- The different y coordinates of the members, in increasing order. -/
def levelsOf (members : List (PlacedVertex κ)) : List κ :=
  dropClose ((members.map (·.y)).mergeSort Coordinate.before)

/-- The first level close to a coordinate; the lowest one if there is none. -/
def levelOf (levels : List κ) (y : κ) : Nat :=
  (levels.findIdx? fun level => Coordinate.close level y).getD 0

/-- The level of a member before the layers are turned round; `none` for a child that is no member. -/
def memberLevel? (levels : List κ) (members : List (PlacedVertex κ)) (child : Nat) : Option Nat :=
  (members.find? fun m => m.vertex == child).map fun m => levelOf levels m.y

/-- Do more edges between members run from a later level to an earlier one than the other way? -/
def runsBackward (levels : List κ) (members : List (PlacedVertex κ)) (edges : List (Nat × Nat)) : Bool :=
  let ends := edges.filterMap fun (s, t) =>
    match memberLevel? levels members s, memberLevel? levels members t with
    | some a, some b => some (a, b)
    | _, _ => none
  ends.countP (fun (a, b) => a < b) < ends.countP fun (a, b) => b < a

/-- Is a member at most as far along its layer as another one?  At one place the number of the child
decides. -/
def alongLayer (a b : PlacedVertex κ) : Bool :=
  Coordinate.before a.x b.x && (!Coordinate.before b.x a.x || a.vertex ≤ b.vertex)

/-- The layers of the members of a component.  They are turned round when most edges would otherwise run
backwards, so that sources come first. -/
def ranksOfCoordinates (members : List (PlacedVertex κ)) (edges : List (Nat × Nat)) : Ranks :=
  let levels := levelsOf members
  let backward := runsBackward levels members edges
  (List.range levels.length).map fun k =>
    let level := if backward then levels.length - 1 - k else k
    ((members.filter fun m => levelOf levels m.y == level).mergeSort alongLayer).map (·.vertex)

/-- Layers for the components of a layering, one after the other.  Numbers that are no children are left
out, and so are children that an earlier component has. -/
def componentRanks (count : Nat) (edges : List (Nat × Nat)) :
    List (List (PlacedVertex κ)) → List Nat → List Ranks × List Nat
  | [], seen => ([], seen)
  | component :: rest, seen =>
      let members := component.filter fun m => m.vertex < count && !seen.contains m.vertex
      if members.isEmpty then componentRanks count edges rest seen
      else
        let (ranks, seen) := componentRanks count edges rest (members.map (·.vertex) ++ seen)
        (ranksOfCoordinates members edges :: ranks, seen)

/-- The least child in the layers of a component, if there is one. -/
def leastChild? (ranks : Ranks) : Option Nat := ranks.flatten.min?

/-- Is the least child of a component at most that of another one?  A component without children comes
last. -/
def startsBefore (a b : Ranks) : Bool :=
  match leastChild? a, leastChild? b with
  | some i, some j => i ≤ j
  | _, none => true
  | none, some _ => false

/-- The layers of `count` children that edges join, one entry for each component, in the order of their
least children.  Every child that the layering leaves out is a component of its own. -/
def rankChildren (layering : Layering κ) (count : Nat) (edges : List (Nat × Nat)) :
    Except String (List Ranks) := do
  let components ← if edges.isEmpty then pure [] else layering edges
  let (ranks, seen) := componentRanks count edges components []
  let rest := (List.range count).filter fun i => !seen.contains i
  return (ranks ++ rest.map fun i => [[i]]).mergeSort startsBefore

end BoxDiagram
