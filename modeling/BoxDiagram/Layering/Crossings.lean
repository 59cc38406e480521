/-
Module: BoxDiagram.Layering.Crossings
Purpose: Few crossings between the arcs of neighbouring layers.  Layers are sorted by the mean position of the
  neighbours in the layer before, in sweeps downward and upward in turn, and after each sweep neighbouring
  vertices are exchanged as long as that saves crossings.
Main exports: LevelledGraph.crossings, LevelledGraph.sweep, LevelledGraph.transpose, LevelledGraph.fewCrossings
-/
import BoxDiagram.Layering.Layers

namespace BoxDiagram

/-! ### Counting -/

def total (ns : List Nat) : Nat := ns.foldr (· + ·) 0

/-- Number of inversions: pairs of an element and a smaller one after it. -/
def inversions : List Nat → Nat
  | [] => 0
  | n :: rest => rest.countP (· < n) + inversions rest

/-- Number of pairs of an element of the first list and a smaller one of the second. -/
def pairInversions (ns ms : List Nat) : Nat := total (ns.map fun n => ms.countP (· < n))

/-- The positions of those vertices of a list that stand in a row, in increasing order. -/
def positionsIn (row : Row) (vertices : List Nat) : List Nat :=
  ((vertices.filter row.contains).map row.idxOf).mergeSort

/-- A mean position as the sum and number of positions. -/
structure Mean where
  sum : Nat
  count : Nat
deriving Repr, DecidableEq, Inhabited

/-- Is the first mean at most the second one? -/
def Mean.atMost (a b : Mean) : Bool := a.sum * b.count ≤ b.sum * a.count

namespace LevelledGraph

/-- The heads of the arcs that leave a vertex. -/
def successors (l : LevelledGraph) (v : Nat) : List Nat := (l.graph.outgoing v).map Arc.head

/-- The tails of the arcs that enter a vertex. -/
def predecessors (l : LevelledGraph) (v : Nat) : List Nat := (l.graph.incoming v).map Arc.tail

/-- Number of crossings between neighbouring rows. -/
def crossings (l : LevelledGraph) : List Row → Nat
  | upper :: lower :: rest =>
      inversions (upper.flatMap fun v => positionsIn lower (l.successors v)) + l.crossings (lower :: rest)
  | _ => 0

/-! ### Sweeps -/

/-- The mean position of the neighbours of a vertex in a row; its own position if it has none there. -/
def mean (neighbours : Nat → List Nat) (row : Row) (v position : Nat) : Mean :=
  match positionsIn row (neighbours v) with
  | [] => ⟨position, 1⟩
  | ps => ⟨total ps, ps.length⟩

/-- Sort a row by the mean positions of the neighbours in the row before it. -/
def sortRow (neighbours : Nat → List Nat) (before row : Row) : Row :=
  ((row.zipIdx.map fun (v, i) => (mean neighbours before v i, v)).mergeSort
    fun a b => a.1.atMost b.1).map (·.2)

/-- Sort all rows but the first, each by the row before it as it is then. -/
def sweepRows (neighbours : Nat → List Nat) : List Row → List Row
  | [] => []
  | [row] => [row]
  | before :: row :: rest => before :: sweepRows neighbours (sortRow neighbours before row :: rest)
termination_by rows => rows.length

/-- Sweep downward by predecessors, or upward by successors. -/
def sweep (l : LevelledGraph) (downward : Bool) (rows : List Row) : List Row :=
  if downward then sweepRows l.predecessors rows
  else (sweepRows l.successors rows.reverse).reverse

/-! ### Exchanges -/

/-- Number of crossings between the arcs at two vertices if the first one stands to the left. -/
def pairCrossings (l : LevelledGraph) (above below : Row) (v w : Nat) : Nat :=
  pairInversions (positionsIn above (l.predecessors v)) (positionsIn above (l.predecessors w)) +
    pairInversions (positionsIn below (l.successors v)) (positionsIn below (l.successors w))

/-- Pass along a row once and exchange neighbours where that saves crossings.  The flag says whether anything
was exchanged. -/
def exchangeAlong (worse : Nat → Nat → Bool) : Row → Row × Bool
  | v :: w :: rest =>
      if worse v w then
        let (row, _) := exchangeAlong worse (v :: rest)
        (w :: row, true)
      else
        let (row, changed) := exchangeAlong worse (w :: rest)
        (v :: row, changed)
  | row => (row, false)
termination_by row => row.length

/-- Exchange neighbours in all rows once, from the first row on. -/
def exchangeRows (l : LevelledGraph) (above : Row) : List Row → List Row × Bool
  | [] => ([], false)
  | row :: rest =>
      let below := rest.headD []
      let worse (v w : Nat) : Bool := l.pairCrossings above below w v < l.pairCrossings above below v w
      let (row, changed) := exchangeAlong worse row
      let (rows, changedBelow) := l.exchangeRows row rest
      (row :: rows, changed || changedBelow)

/-- Exchange neighbours until no exchange saves a crossing, in at most `fuel` rounds. -/
def exchangeRounds (l : LevelledGraph) : Nat → List Row → List Row
  | 0, rows => rows
  | fuel + 1, rows =>
      let (rows, changed) := l.exchangeRows [] rows
      if changed then l.exchangeRounds fuel rows else rows

/-- Exchange neighbours until no exchange saves a crossing.  Every round but the last saves one. -/
def transpose (l : LevelledGraph) (rows : List Row) : List Row :=
  l.exchangeRounds (l.crossings rows + 1) rows

/-! ### The search -/

/-- The best rows so far, with their crossings, and how many sweeps ago they were found. -/
structure SweepState where
  rows : List Row
  downward : Bool
  best : List Row
  fewest : Nat
  idle : Nat
deriving Repr, Inhabited

/-- Number of sweeps without success after which the search ends. -/
def idleSweeps : Nat := 4

/-- Sweep and exchange until the best rows have not changed for a while. -/
def search (l : LevelledGraph) : Nat → SweepState → List Row
  | 0, s => s.best
  | fuel + 1, s =>
      let rows := l.transpose (l.sweep s.downward s.rows)
      let n := l.crossings rows
      let s :=
        if n < s.fewest then ⟨rows, !s.downward, rows, n, 0⟩
        else { s with rows := rows, downward := !s.downward, idle := s.idle + 1 }
      if s.idle ≥ idleSweeps then s.best else l.search fuel s

/-- The layers in an order with few crossings.  Only a sweep that saves a crossing starts the count of idle
sweeps anew, so the number of sweeps is bounded by the crossings at the start. -/
def fewCrossings (l : LevelledGraph) (rows : List Row) : List Row :=
  let n := l.crossings rows
  l.search (idleSweeps * (n + 1)) ⟨rows, true, rows, n, 0⟩

end LevelledGraph

end BoxDiagram
