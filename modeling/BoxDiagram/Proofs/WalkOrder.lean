/-
Module: BoxDiagram.Proofs.WalkOrder
Purpose: The order of the walk over a finished layout and the places that it reports, which are those that a search for
  an id finds.
Main exports: VisitedAt, walkForest_visitedAt, PositionedGraph.FirstVisit, PositionedGraph.absoluteOrigin_eq_walk
-/
import BoxDiagram.Proofs.Addresses
import BoxDiagram.Proofs.ExactArithmetic
import BoxDiagram.Proofs.Walk

namespace BoxDiagram

variable {α : Type} [Scalar α]

/-! ### The visits and their addresses -/

/-- On a walk over a forest that starts at a place and a depth, the visit is the one to the subtree with this address.
The subtrees around it are counted by the depth, and the corners of all of them and its own add up to its place. -/
def VisitedAt (forest : List (Tree (PositionedNode α))) (start : Point α) (depth : Nat) (address : List Nat)
    (v : Visit α) : Prop :=
  ∃ around, Tree.descend? forest address = some (around ++ [v.node]) ∧ v.depth = depth + around.length ∧
    v.origin = cornerAlong start (around ++ [v.node])

/-- A visit below a tree is one deeper in the forest of the tree. -/
theorem VisitedAt.below {forest : List (Tree (PositionedNode α))} {i : Nat} {t : Tree (PositionedNode α)}
    (chosen : forest[i]? = some t) {start : Point α} {depth : Nat} {address : List Nat} {v : Visit α}
    (visited : VisitedAt t.children (start + t.value.corner) (depth + 1) address v) :
    VisitedAt forest start depth (i :: address) v := by
  obtain ⟨around, met, deep, place⟩ := visited
  refine ⟨t :: around, ?_, ?_, place⟩
  · rw [Tree.descend?_cons chosen, met, Option.map_some, List.cons_append]
  · rw [deep, List.length_cons]
    omega

mutual

theorem walkTree_visitedAt : ∀ (start : Point α) (depth : Nat) {t : Tree (PositionedNode α)}
    {forest : List (Tree (PositionedNode α))} {i : Nat}, forest[i]? = some t →
      List.Forall₂ (fun address v => VisitedAt forest start depth (i :: address) v) (Tree.addresses t)
        (walkTree start depth t)
  | start, depth, .node n cs, forest, i, chosen => by
      rw [Tree.addresses, walkTree]
      apply List.Forall₂.cons
      · refine ⟨[], ?_, rfl, rfl⟩
        rw [Tree.descend?_cons chosen, Tree.descend?_nil, Option.map_some, List.nil_append]
      · have whole : cs.drop 0 = cs := List.drop_zero
        have inside := walkForest_visitedAt (start + n.corner) (depth + 1) whole
        exact inside.imp fun _ _ visited => visited.below chosen

/-- The walk visits the subtrees of the last trees of a forest in the order of their addresses. -/
theorem walkForest_visitedAt : ∀ (start : Point α) (depth : Nat) {ts forest : List (Tree (PositionedNode α))} {i : Nat},
    forest.drop i = ts →
      List.Forall₂ (VisitedAt forest start depth) (Tree.addressesForest i ts) (walkForest start depth ts)
  | start, depth, [], forest, i, _ => by
      rw [Tree.addressesForest, walkForest]
      exact List.Forall₂.nil
  | start, depth, t :: ts, forest, i, dropped => by
      obtain ⟨chosen, later⟩ := Tree.getElem?_of_drop dropped
      rw [Tree.addressesForest, walkForest]
      apply List.rel_append
      · rw [List.forall₂_map_left_iff]
        exact walkTree_visitedAt start depth chosen
      · exact walkForest_visitedAt start depth later

end

/-! ### The place of an id -/

namespace PositionedGraph

variable {g : PositionedGraph α}

/-- The visit is to a node with the id, and the walk comes to no such node before. -/
def FirstVisit (g : PositionedGraph α) (id : String) (v : Visit α) : Prop :=
  v.node.value.id = id ∧ ∃ before after, g.walk = before ++ v :: after ∧ ∀ u ∈ before, u.node.value.id ≠ id

theorem firstVisit_iff {id : String} {v : Visit α} :
    g.FirstVisit id v ↔ (g.walk.find? fun v => v.node.value.id = id) = some v := by
  simp [FirstVisit, List.find?_eq_some_iff_append]

theorem absoluteOrigin_of_firstVisit {id : String} (notRoot : id ≠ rootId) {v : Visit α} (first : g.FirstVisit id v) :
    g.absoluteOrigin (some id) = v.origin := by
  simp [absoluteOrigin_eq notRoot, firstVisit_iff.mp first]

theorem absoluteOrigin_of_not_visited {id : String} (notRoot : id ≠ rootId)
    (missed : ∀ v ∈ g.walk, v.node.value.id ≠ id) : g.absoluteOrigin (some id) = Point.origin := by
  have notFound : (g.walk.find? fun v => v.node.value.id = id) = none := by simpa using missed
  simp [absoluteOrigin_eq notRoot, notFound]

/-- The place found for an id is the one that the walk reports at its first visit to a node with this id, and the origin
of the drawing if there is none; the root is at this origin, named or not.  The walk visits every address of the layout
once, in lexicographic order, so outer nodes are before inner ones and siblings are in order.  A visit reports how many
nodes are around the node, and the sum of the corners on the way to it. -/
theorem absoluteOrigin_eq_walk (g : PositionedGraph α) :
    (∀ id, id ≠ rootId →
      (∀ v, g.FirstVisit id v → g.absoluteOrigin (some id) = v.origin) ∧
      ((∀ v ∈ g.walk, v.node.value.id ≠ id) → g.absoluteOrigin (some id) = Point.origin)) ∧
    g.absoluteOrigin none = Point.origin ∧ g.absoluteOrigin (some rootId) = Point.origin ∧
    ∃ order : List (List Nat), order.Pairwise (· < ·) ∧
      (∀ address, address ∈ order ↔ address ≠ [] ∧ (Tree.descend? g.children address).isSome) ∧
      List.Forall₂ (VisitedAt g.children Point.origin 0) order g.walk := by
  refine ⟨?_, rfl, by simp [absoluteOrigin], Tree.addressesForest 0 g.children, Tree.addressesForest_pairwise 0 g.children,
    ?_, walkForest_visitedAt Point.origin 0 List.drop_zero⟩
  · intro id notRoot
    exact ⟨fun v first => absoluteOrigin_of_firstVisit notRoot first, absoluteOrigin_of_not_visited notRoot⟩
  · intro address
    rw [Tree.mem_addressesForest_iff List.drop_zero]
    cases address with
    | nil => simp
    | cons i rest => simp

/-- Two boxes with one id, an inner and an outer one. -/
def twinBoxes : PositionedGraph ℚ :=
  { width := 140
    height := 60
    children := [
      .node ⟨"outer", 10, 20, 50, 40, [], []⟩ [.node ⟨"twin", 5, 7, 20, 20, [], []⟩ []],
      .node ⟨"twin", 100, 20, 40, 40, [], []⟩ []]
    edges := [] }

/-- The inner of the two boxes is visited first. -/
theorem twinBoxes_absoluteOrigin : "twin" ≠ rootId ∧ "missing" ≠ rootId ∧
    (∃ v, twinBoxes.FirstVisit "twin" v ∧ v.origin = ⟨15, 27⟩ ∧ twinBoxes.absoluteOrigin (some "twin") = v.origin) ∧
    (∀ v ∈ twinBoxes.walk, v.node.value.id ≠ "missing") ∧
    twinBoxes.absoluteOrigin (some "missing") = Point.origin := by
  have place : (twinBoxes.walk.find? fun v => v.node.value.id = "twin").map Visit.origin = some ⟨15, 27⟩ := by
    decide +kernel
  obtain ⟨v, found, place⟩ := Option.map_eq_some_iff.mp place
  have first := firstVisit_iff.mpr found
  have missed : ∀ v ∈ twinBoxes.walk, v.node.value.id ≠ "missing" := by decide
  have twin : "twin" ≠ rootId := by decide
  have missing : "missing" ≠ rootId := by decide
  obtain ⟨places, -⟩ := absoluteOrigin_eq_walk twinBoxes
  exact ⟨twin, missing, ⟨v, first, place, (places "twin" twin).1 v first⟩, missed, (places "missing" missing).2 missed⟩

end PositionedGraph

end BoxDiagram
