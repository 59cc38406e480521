/-
Module: BoxDiagram.Layering.Coordinates
Purpose: Coordinates for the vertices of a graph, component by component: y tells the layer of a vertex and x
  its place along the layer.
Main exports: PlacedVertex, layeredCoordinates, LayeringFault
-/
import BoxDiagram.Layering.Acyclic
import BoxDiagram.Layering.Crossings

namespace BoxDiagram

/-- A vertex with its coordinates. -/
structure PlacedVertex (κ : Type) where
  vertex : Nat
  x : κ
  y : κ
deriving Repr, DecidableEq, Inhabited

/-- Why a graph has no coordinates. -/
inductive LayeringFault where
  | unsettled (vertices : Nat)
deriving Repr, DecidableEq, Inhabited

def LayeringFault.message : LayeringFault → String
  | unsettled n => "the levels of " ++ toString n ++ " vertices do not settle"

/-- The layers of a connected graph, with waypoints among the vertices. -/
def layersOf (g : Digraph) : Except LayeringFault (LevelledGraph × List Row) :=
  let g := g.acyclic
  match g.levels? with
  | none => .error (.unsettled g.vertices.length)
  | some levels =>
      let l := LevelledGraph.cut g levels
      .ok (l, l.fewCrossings l.firstLayers)

/-- The middles of `count` strips of the same breadth, the first one around zero.  Strips of no breadth all
lie at zero. -/
def stripMiddles (breadth : Float) (count : Nat) : List Float :=
  if 0 < breadth then
    ((List.range count).foldl
      (fun (state : Float × List Float) _ => (state.1 + breadth, (state.1 + breadth / 2) :: state.2))
      (-(breadth / 2), [])).2.reverse
  else List.replicate count 0

/-- The vertices of the layers at the middles of strips; waypoints take up room and are left out. -/
def placeLayers (spacing : Float) (waypoints : List Nat) (rows : List Row) : List (PlacedVertex Float) :=
  (rows.zip (stripMiddles spacing rows.length)).flatMap fun (row, y) =>
    ((row.zip (stripMiddles spacing row.length)).filter fun (v, _) => !waypoints.contains v).map
      fun (v, x) => ⟨v, x, y⟩

/-- Coordinates for the vertices of all edges, one list for each connected component. -/
def layeredCoordinates (spacing : Float) (edges : List (Nat × Nat)) :
    Except LayeringFault (List (List (PlacedVertex Float))) :=
  (Digraph.ofEdges edges).components.mapM fun g => do
    let (l, rows) ← layersOf g
    return placeLayers spacing l.waypoints rows

end BoxDiagram
