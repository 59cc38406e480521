/-
Module: BoxDiagram.Proofs.ForwardLayers
Purpose: The layers of a component run along the majority of its edges.  Turning them round reverses the order of any two
  members in different layers, so it exchanges the edges that lead forward with those that lead backward; and it is done
  exactly when this leaves more of them leading forward.
Main exports: Ranks.layerOf?, Ranks.leads, layersTurned, layerOf?_layersTurned, PlacedVertex.Precedes, ForwardLayers,
  ranksOfCoordinates_forward
-/
import BoxDiagram.Proofs.RankOrder
import Mathlib

namespace BoxDiagram

/-! ### The layers of children -/

namespace Ranks

/-- The number of the layer that holds a child. -/
def layerOf? (ranks : Ranks) (child : ℕ) : Option ℕ := ranks.findIdx? fun layer => layer.contains child

/-- Is the first child in an earlier layer than the second one?  It is not if one of them is in no layer. -/
def leads (ranks : Ranks) (s t : ℕ) : Bool :=
  match ranks.layerOf? s, ranks.layerOf? t with
  | some i, some j => i < j
  | _, _ => false

/-- The number of edges from an earlier layer to a later one. -/
def forwardEdges (ranks : Ranks) (edges : List (ℕ × ℕ)) : ℕ := edges.countP fun e => ranks.leads e.1 e.2

/-- The number of edges from a later layer to an earlier one. -/
def backwardEdges (ranks : Ranks) (edges : List (ℕ × ℕ)) : ℕ := edges.countP fun e => ranks.leads e.2 e.1

end Ranks

section Members

variable {κ : Type} [Coordinate κ] {members : List (PlacedVertex κ)}

/-! ### Layers turned round -/

/-- The layers of members in the order of their levels, or turned round. -/
def layersTurned (members : List (PlacedVertex κ)) (backward : Bool) : Ranks :=
  (List.range (levelsOf members).length).map fun k =>
    ((members.filter fun m => levelOf (levelsOf members) m.y == levelAt backward (levelsOf members).length k).mergeSort
      alongLayer).map (·.vertex)

theorem ranksOfCoordinates_eq (members : List (PlacedVertex κ)) (edges : List (ℕ × ℕ)) :
    ranksOfCoordinates members edges = layersTurned members (runsBackward (levelsOf members) members edges) := rfl

theorem length_layersTurned (members : List (PlacedVertex κ)) (backward : Bool) :
    (layersTurned members backward).length = (levelsOf members).length := by
  rw [layersTurned, List.length_map, List.length_range]

/-- A child is in the layer of its level, and in no other one. -/
theorem mem_layersTurned_iff (once : (members.map (·.vertex)).Nodup) {backward : Bool} {i k : ℕ}
    (inside : k < (layersTurned members backward).length) :
    i ∈ (layersTurned members backward)[k] ↔
      memberLevel? (levelsOf members) members i = some (levelAt backward (levelsOf members).length k) := by
  simp only [layersTurned, List.getElem_map, List.getElem_range, List.mem_map, List.mem_mergeSort, List.mem_filter,
    beq_iff_eq]
  rw [memberLevel?_eq_some_iff once]
  constructor
  · rintro ⟨m, ⟨mem, level⟩, number⟩
    exact ⟨m, mem, number, level⟩
  · rintro ⟨m, mem, number, level⟩
    exact ⟨m, ⟨mem, level⟩, number⟩

/-- Every level that a member has is one of the levels. -/
theorem memberLevel?_lt {i k : ℕ} (found : memberLevel? (levelsOf members) members i = some k) :
    k < (levelsOf members).length := by
  obtain ⟨m, isMember, rfl⟩ := Option.map_eq_some_iff.mp found
  exact levelOf_lt (levelsOf_ne_nil (List.ne_nil_of_mem (List.mem_of_find?_eq_some isMember))) m.y

/-- The layer of a child is its level, counted from the last one when the layers are turned round.  What is no member is
in no layer. -/
theorem layerOf?_layersTurned (once : (members.map (·.vertex)).Nodup) (backward : Bool) (i : ℕ) :
    (layersTurned members backward).layerOf? i =
      (memberLevel? (levelsOf members) members i).map (levelAt backward (levelsOf members).length) := by
  cases found : memberLevel? (levelsOf members) members i with
  | none =>
      rw [Option.map_none, Ranks.layerOf?, List.findIdx?_eq_none_iff]
      intro layer mem
      obtain ⟨k, inside, rfl⟩ := List.getElem_of_mem mem
      rw [← Bool.not_eq_true, List.contains_iff_mem, mem_layersTurned_iff once, found]
      exact Option.some_ne_none _ ∘ Eq.symm
  | some level =>
      have isLevel := memberLevel?_lt found
      have inside : levelAt backward (levelsOf members).length level < (layersTurned members backward).length := by
        rw [length_layersTurned]
        exact levelAt_lt isLevel backward
      rw [Option.map_some, Ranks.layerOf?, List.findIdx?_eq_some_iff_getElem]
      refine ⟨inside, ?_, ?_⟩
      · rw [List.contains_iff_mem, mem_layersTurned_iff once, found, levelAt_levelAt isLevel]
      · intro k before isHere
        rw [List.contains_iff_mem, mem_layersTurned_iff once, found, Option.some.injEq] at isHere
        have kInside : k < (levelsOf members).length := by
          rw [← length_layersTurned members backward]
          exact before.trans inside
        rw [isHere, levelAt_levelAt kInside] at before
        exact absurd before (lt_irrefl k)

/-- Turning the layers round reverses the order of any two members in different layers. -/
theorem leads_layersTurned (once : (members.map (·.vertex)).Nodup) (s t : ℕ) :
    (layersTurned members true).leads s t = (layersTurned members false).leads t s := by
  simp only [Ranks.leads, layerOf?_layersTurned once]
  cases sLevel : memberLevel? (levelsOf members) members s with
  | none => cases memberLevel? (levelsOf members) members t <;> rfl
  | some i =>
      cases tLevel : memberLevel? (levelsOf members) members t with
      | none => rfl
      | some j =>
          have iBelow := memberLevel?_lt sLevel
          have jBelow := memberLevel?_lt tLevel
          simp only [Option.map_some, levelAt, if_true, Bool.false_eq_true, if_false, decide_eq_decide]
          omega

theorem forwardEdges_layersTurned (once : (members.map (·.vertex)).Nodup) (edges : List (ℕ × ℕ)) :
    (layersTurned members true).forwardEdges edges = (layersTurned members false).backwardEdges edges := by
  simp only [Ranks.forwardEdges, Ranks.backwardEdges, leads_layersTurned once]

theorem backwardEdges_layersTurned (once : (members.map (·.vertex)).Nodup) (edges : List (ℕ × ℕ)) :
    (layersTurned members true).backwardEdges edges = (layersTurned members false).forwardEdges edges := by
  simp only [Ranks.forwardEdges, Ranks.backwardEdges, leads_layersTurned once]

/-- The layers are turned round if more edges would lead backward than forward otherwise. -/
theorem runsBackward_eq_decide (once : (members.map (·.vertex)).Nodup) (edges : List (ℕ × ℕ)) :
    runsBackward (levelsOf members) members edges =
      decide ((layersTurned members false).forwardEdges edges < (layersTurned members false).backwardEdges edges) := by
  have kept : ∀ i, (layersTurned members false).layerOf? i = memberLevel? (levelsOf members) members i := by
    intro i
    rw [layerOf?_layersTurned once]
    exact Option.map_id'
  simp only [runsBackward, Ranks.forwardEdges, Ranks.backwardEdges, Ranks.leads, kept, List.countP_filterMap]
  congr 3
  all_goals
    funext e
    obtain ⟨s, t⟩ := e
    cases memberLevel? (levelsOf members) members s <;> cases memberLevel? (levelsOf members) members t <;> rfl

/-! ### The order along a layer -/

/-- The first member stands before the second one in their layer: its x comes before, or at the same x it has the smaller
number. -/
def PlacedVertex.Precedes (a b : PlacedVertex κ) : Prop :=
  Coordinate.before a.x b.x = true ∧ (Coordinate.before b.x a.x = true → a.vertex < b.vertex)

theorem alongLayer_iff {a b : PlacedVertex κ} : alongLayer a b = true ↔
    Coordinate.before a.x b.x = true ∧ (Coordinate.before b.x a.x = true → a.vertex ≤ b.vertex) := by
  rw [alongLayer, Bool.and_eq_true, Bool.or_eq_true, Bool.not_eq_true', decide_eq_true_eq, ← Bool.not_eq_true,
    imp_iff_not_or]

theorem alongLayer_total (a b : PlacedVertex κ) : (alongLayer a b || alongLayer b a) = true := by
  rw [Bool.or_eq_true, alongLayer_iff, alongLayer_iff]
  have total := Coordinate.before_total a.x b.x
  rw [Bool.or_eq_true] at total
  have numbers := Nat.le_total a.vertex b.vertex
  tauto

theorem alongLayer_trans (a b c : PlacedVertex κ) (first : alongLayer a b = true) (second : alongLayer b c = true) :
    alongLayer a c = true := by
  rw [alongLayer_iff] at first second ⊢
  refine ⟨Coordinate.before_trans _ _ _ first.1 second.1, fun back => ?_⟩
  -- If c is not after a, all three have the same x.
  have bNotAfter := Coordinate.before_trans _ _ _ second.1 back
  have cNotAfter := Coordinate.before_trans _ _ _ back first.1
  exact (first.2 bNotAfter).trans (second.2 cNotAfter)

/-- In every layer the members are in order. -/
theorem layersTurned_inOrder (once : (members.map (·.vertex)).Nodup) (backward : Bool) {layer : List ℕ}
    (isLayer : layer ∈ layersTurned members backward) :
    ∃ row : List (PlacedVertex κ), layer = row.map (·.vertex) ∧ (∀ m ∈ row, m ∈ members) ∧
      row.Pairwise PlacedVertex.Precedes := by
  obtain ⟨k, -, rfl⟩ := List.mem_map.mp isLayer
  refine ⟨_, rfl, fun m mem => (List.mem_filter.mp (List.mem_mergeSort.mp mem)).1, ?_⟩
  have sorted := List.pairwise_mergeSort alongLayer_trans alongLayer_total
    (members.filter fun m => levelOf (levelsOf members) m.y == levelAt backward (levelsOf members).length k)
  have distinct : ((members.filter fun m =>
      levelOf (levelsOf members) m.y == levelAt backward (levelsOf members).length k).mergeSort
        alongLayer).Pairwise fun a b => a.vertex ≠ b.vertex := by
    refine List.pairwise_map.mp (((List.mergeSort_perm _ _).map _).nodup_iff.mpr ?_)
    exact once.sublist (List.filter_sublist.map _)
  refine (sorted.and distinct).imp ?_
  rintro a b ⟨along, differ⟩
  rw [alongLayer_iff] at along
  exact ⟨along.1, fun back => Nat.lt_of_le_of_ne (along.2 back) differ⟩

/-! ### Main result -/

/-- How the layers of the members of a component lie along its edges. -/
structure ForwardLayers (members : List (PlacedVertex κ)) (edges : List (ℕ × ℕ)) (ranks : Ranks) : Prop where
  /-- The layers hold every member once. -/
  whole : ranks.flatten.Perm (members.map (·.vertex))
  majority : ranks.backwardEdges edges ≤ ranks.forwardEdges edges
  /-- Without being turned round, members are in the layers of their levels. -/
  byLevel : ∀ m ∈ members,
    (layersTurned members false).layerOf? m.vertex = some (levelOf (levelsOf members) m.y)
  /-- The layers are turned round exactly when more edges would lead backward than forward otherwise. -/
  chosen : ranks = layersTurned members
    (decide ((layersTurned members false).forwardEdges edges < (layersTurned members false).backwardEdges edges))
  /-- Two members in different layers are in different layers when these are turned round, and in opposite order. -/
  opposite : ∀ a ∈ members, ∀ b ∈ members, ∃ i j i' j',
    (layersTurned members false).layerOf? a.vertex = some i ∧ (layersTurned members false).layerOf? b.vertex = some j ∧
      (layersTurned members true).layerOf? a.vertex = some i' ∧
        (layersTurned members true).layerOf? b.vertex = some j' ∧ (i < j ↔ j' < i')
  inOrder : ∀ layer ∈ ranks, ∃ row : List (PlacedVertex κ), layer = row.map (·.vertex) ∧ (∀ m ∈ row, m ∈ members) ∧
    row.Pairwise PlacedVertex.Precedes

/-- If no vertex is given twice, then whatever the coordinates and the edges are, at least as many edges lead to a later
layer as to an earlier one, turning the layers round reverses the order of members in different layers, and every layer is
in the order of x, and at one x in the order of the numbers of the children. -/
theorem ranksOfCoordinates_forward (once : (members.map (·.vertex)).Nodup) (edges : List (ℕ × ℕ)) :
    ForwardLayers members edges (ranksOfCoordinates members edges) := by
  have level : ∀ m ∈ members, memberLevel? (levelsOf members) members m.vertex = some (levelOf (levelsOf members) m.y) :=
    fun m mem => (memberLevel?_eq_some_iff once).mpr ⟨m, mem, rfl, rfl⟩
  have chosen := ranksOfCoordinates_eq members edges
  rw [runsBackward_eq_decide once] at chosen
  refine ⟨ranksOfCoordinates_perm members edges, ?_, ?_, chosen, ?_, ?_⟩
  · rw [chosen]
    by_cases backward :
        (layersTurned members false).forwardEdges edges < (layersTurned members false).backwardEdges edges
    · rw [decide_eq_true backward, forwardEdges_layersTurned once, backwardEdges_layersTurned once]
      exact backward.le
    · rw [decide_eq_false backward]
      exact Nat.le_of_not_lt backward
  · intro m mem
    rw [layerOf?_layersTurned once, level m mem]
    rfl
  · intro a aMem b bMem
    have aBelow := memberLevel?_lt (level a aMem)
    have bBelow := memberLevel?_lt (level b bMem)
    simp only [layerOf?_layersTurned once, level a aMem, level b bMem, Option.map_some]
    refine ⟨_, _, _, _, rfl, rfl, rfl, rfl, ?_⟩
    simp only [levelAt, if_true, Bool.false_eq_true, if_false]
    omega
  · intro layer isLayer
    rw [chosen] at isLayer
    exact layersTurned_inOrder once _ isLayer

end Members

/-- A member above three others that stand in a row, two of them at one x. -/
def rowBelow : List (PlacedVertex ℚ) := [⟨0, 0, 10⟩, ⟨1, 2, 0⟩, ⟨3, 2, 0⟩, ⟨2, 1, 0⟩]

/-- Two edges lead from the upper member to the row and one leads back, so the layers are turned round.  An edge within the
row and one to a vertex that is no member do not count. -/
theorem rowBelow_forward :
    (rowBelow.map (·.vertex)).Nodup ∧
      ranksOfCoordinates rowBelow [(0, 1), (1, 0), (1, 3), (0, 7), (0, 2)] = [[0], [2, 1, 3]] ∧
      Ranks.forwardEdges [[0], [2, 1, 3]] [(0, 1), (1, 0), (1, 3), (0, 7), (0, 2)] = 2 ∧
      Ranks.backwardEdges [[0], [2, 1, 3]] [(0, 1), (1, 0), (1, 3), (0, 7), (0, 2)] = 1 ∧
      ForwardLayers rowBelow [(0, 1), (1, 0), (1, 3), (0, 7), (0, 2)] [[0], [2, 1, 3]] := by
  have once : (rowBelow.map (·.vertex)).Nodup := by decide
  have ranked : ranksOfCoordinates rowBelow [(0, 1), (1, 0), (1, 3), (0, 7), (0, 2)] = [[0], [2, 1, 3]] := by cbv
  have forward := ranksOfCoordinates_forward once [(0, 1), (1, 0), (1, 3), (0, 7), (0, 2)]
  rw [ranked] at forward
  exact ⟨once, ranked, by decide, by decide, forward⟩

end BoxDiagram
