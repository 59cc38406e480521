/-
Module: BoxDiagram.Proofs.RankedChildren
Purpose: The components of the children of a container.  Whatever a layering answers, every child is in one layer of one
  component, no component is empty, the components are in the order of their least children, and a child that the
  layering leaves out is a component of its own.
Main exports: leastChild?_eq_some_iff, ranks_ordered, RankedComponents, rankChildren_components,
  scatteredChildren_ranked
-/
import BoxDiagram.Proofs.RankTables
import Mathlib

namespace BoxDiagram

/-! ### The order of components -/

section Order

variable {a b c : Ranks}

theorem leastChild?_eq_some_iff {i : ℕ} : leastChild? a = some i ↔ IsLeast {k | k ∈ a.flatten} i :=
  List.min?_eq_some_iff

/-- A component that is not empty has a least child. -/
theorem exists_leastChild (inhabited : a.flatten ≠ []) : ∃ i, leastChild? a = some i := by
  cases least : leastChild? a with
  | none => exact absurd (List.min?_eq_none_iff.mp least) inhabited
  | some i => exact ⟨i, rfl⟩

theorem startsBefore_total (a b : Ranks) : (startsBefore a b || startsBefore b a) = true := by
  cases left : leastChild? a with
  | none => cases right : leastChild? b <;> simp [startsBefore, left, right]
  | some i =>
      cases right : leastChild? b with
      | none => simp [startsBefore, left, right]
      | some j => simpa [startsBefore, left, right] using Nat.le_total i j

theorem startsBefore_trans (a b c : Ranks) (first : startsBefore a b = true) (second : startsBefore b c = true) :
    startsBefore a c = true := by
  cases right : leastChild? c with
  | none => cases left : leastChild? a <;> simp [startsBefore, left, right]
  | some k =>
      cases middle : leastChild? b with
      | none => simp [startsBefore, middle, right] at second
      | some j =>
          cases left : leastChild? a with
          | none => simp [startsBefore, left, middle] at first
          | some i =>
              simp only [startsBefore, left, middle, right, decide_eq_true_eq] at first second ⊢
              exact first.trans second

/-- The least child of the first component is less than that of the second one. -/
def Ranks.LeastBefore (a b : Ranks) : Prop :=
  ∃ i j, IsLeast {k | k ∈ a.flatten} i ∧ IsLeast {k | k ∈ b.flatten} j ∧ i < j

/-- Of two components without common children, the one that starts before the other has the smaller least child. -/
theorem leastBefore_of_startsBefore (aInhabited : a.flatten ≠ []) (bInhabited : b.flatten ≠ [])
    (disjoint : List.Disjoint a.flatten b.flatten) (before : startsBefore a b = true) : a.LeastBefore b := by
  obtain ⟨i, left⟩ := exists_leastChild aInhabited
  obtain ⟨j, right⟩ := exists_leastChild bInhabited
  have leastLeft := leastChild?_eq_some_iff.mp left
  have leastRight := leastChild?_eq_some_iff.mp right
  have atMost : i ≤ j := by simpa [startsBefore, left, right] using before
  have differ : i ≠ j := by
    rintro rfl
    exact disjoint leastLeft.1 leastRight.1
  exact ⟨i, j, leastLeft, leastRight, Nat.lt_of_le_of_ne atMost differ⟩

/-- Sorted components that are not empty and hold no child twice are in the order of their least children. -/
theorem ranks_ordered {ranks : List Ranks} (sorted : ranks.Pairwise fun a b => startsBefore a b = true)
    (inhabited : ∀ component ∈ ranks, component.flatten ≠ []) (once : ranks.flatten.flatten.Nodup) :
    ranks.Pairwise Ranks.LeastBefore := by
  have joined : ranks.flatten.flatten = (ranks.map List.flatten).flatten := by
    rw [List.flatten_flatten]
  rw [joined, List.nodup_flatten] at once
  have disjoint := List.pairwise_map.mp once.2
  have both := sorted.and disjoint
  refine both.imp_of_mem ?_
  rintro a b aMem bMem ⟨before, apart⟩
  exact leastBefore_of_startsBefore (inhabited a aMem) (inhabited b bMem) apart before

end Order

/-! ### Components of a layering -/

section Components

variable {κ : Type} [Coordinate κ]

/-- Only components with new members are kept, and their layers are found by the coordinates of these members. -/
theorem exists_members_of_mem_componentRanks (count : ℕ) (edges : List (ℕ × ℕ))
    (answered : List (List (PlacedVertex κ))) (seen : List ℕ) :
    ∀ component ∈ (componentRanks count edges answered seen).1,
      ∃ members : List (PlacedVertex κ), members ≠ [] ∧ ranksOfCoordinates members edges = component := by
  induction answered generalizing seen with
  | nil => simp [componentRanks]
  | cons first rest ih =>
      rw [componentRanks]
      dsimp only
      split
      · exact ih seen
      · rename_i someNew
        exact List.forall_mem_cons.mpr ⟨⟨_, by simpa using someNew, rfl⟩, ih _⟩

theorem ranksOfCoordinates_inhabited {members : List (PlacedVertex κ)} (notEmpty : members ≠ [])
    (edges : List (ℕ × ℕ)) : (ranksOfCoordinates members edges).flatten ≠ [] := by
  intro empty
  have same := (ranksOfCoordinates_perm members edges).length_eq
  rw [empty, List.length_nil, List.length_map] at same
  exact notEmpty (List.length_eq_zero_iff.mp same.symm)

theorem componentRanks_inhabited (count : ℕ) (edges : List (ℕ × ℕ)) (answered : List (List (PlacedVertex κ)))
    (seen : List ℕ) : ∀ component ∈ (componentRanks count edges answered seen).1, component.flatten ≠ [] := by
  intro component mem
  obtain ⟨members, notEmpty, rfl⟩ := exists_members_of_mem_componentRanks count edges answered seen component mem
  exact ranksOfCoordinates_inhabited notEmpty edges

/-- What is seen was seen before, or the layering has answered with it. -/
theorem mem_of_mem_seen (count : ℕ) (edges : List (ℕ × ℕ)) (answered : List (List (PlacedVertex κ))) (seen : List ℕ)
    {i : ℕ} (mem : i ∈ (componentRanks count edges answered seen).2) :
    i ∈ seen ∨ ∃ component ∈ answered, ∃ m ∈ component, m.vertex = i := by
  induction answered generalizing seen with
  | nil => exact .inl mem
  | cons first rest ih =>
      have later : (∃ component ∈ rest, ∃ m ∈ component, m.vertex = i) →
          ∃ component ∈ first :: rest, ∃ m ∈ component, m.vertex = i := by
        rintro ⟨component, isAnswer, isMember⟩
        exact ⟨component, List.mem_cons_of_mem _ isAnswer, isMember⟩
      rw [componentRanks] at mem
      dsimp only at mem
      split at mem
      · exact (ih seen mem).imp_right later
      · rcases ih _ mem with known | inRest
        · rcases List.mem_append.mp known with isNew | before
          · obtain ⟨m, kept, rfl⟩ := List.mem_map.mp isNew
            exact .inr ⟨first, List.mem_cons_self, m, (List.mem_filter.mp kept).1, rfl⟩
          · exact .inl before
        · exact .inr (later inRest)

/-! ### Main result -/

/-- The components into which `count` children are ranked after a layering has answered. -/
structure RankedComponents (count : ℕ) (answered : List (List (PlacedVertex κ))) (ranks : List Ranks) : Prop where
  /-- Every child is in one layer of one component, and nothing else is. -/
  children : ranks.flatten.flatten.Perm (List.range count)
  inhabited : ∀ component ∈ ranks, component.flatten ≠ []
  ordered : ranks.Pairwise Ranks.LeastBefore
  /-- A child that the layering leaves out is a component of its own. -/
  alone : ∀ i < count, (∀ component ∈ answered, ∀ m ∈ component, m.vertex ≠ i) → [[i]] ∈ ranks

/-- If no component that a layering answers with has a vertex twice, the ranking holds every child once, with
components that are not empty and in the order of their least children.  It is the ranking with tables, in which no
index is outside of its table. -/
theorem rankChildren_components {layering : Layering κ} (once : layering.OncePerComponent) {count : ℕ}
    {edges : List (ℕ × ℕ)} {ranks : List Ranks} (ranked : rankChildren layering count edges = .ok ranks) :
    ∃ answered, (edges = [] ∧ answered = [] ∨ layering edges = .ok answered) ∧
      rankByTables? count edges answered = some ranks ∧ RankedComponents count answered ranks := by
  have children := rankChildren_perm once ranked
  obtain ⟨answered, answers, whole⟩ := rankChildren_eq_ok ranked
  have tables : rankByTables? count edges answered = some ranks := by rw [rankByTables?_eq, whole]
  have members : ∀ component, component ∈ ranks ↔ component ∈ (componentRanks count edges answered []).1 ∨
      ∃ i < count, i ∉ (componentRanks count edges answered []).2 ∧ [[i]] = component := by
    intro component
    simp [whole, and_assoc]
  have inhabited : ∀ component ∈ ranks, component.flatten ≠ [] := by
    intro component mem
    rcases (members component).mp mem with isAnswer | ⟨i, -, -, rfl⟩
    · exact componentRanks_inhabited count edges answered [] component isAnswer
    · simp
  have sorted : ranks.Pairwise fun a b => startsBefore a b = true := by
    rw [whole]
    exact List.pairwise_mergeSort startsBefore_trans startsBefore_total _
  have ordered := ranks_ordered sorted inhabited (children.nodup_iff.mpr List.nodup_range)
  refine ⟨answered, answers, tables, children, inhabited, ordered, fun i isChild leftOut => ?_⟩
  refine (members [[i]]).mpr (.inr ⟨i, isChild, fun seen => ?_, rfl⟩)
  rcases mem_of_mem_seen count edges answered [] seen with before | ⟨component, isAnswer, m, isMember, same⟩
  · exact List.not_mem_nil before
  · exact leftOut component isAnswer m isMember same

end Components

/-- A layering that answers with a vertex that is no child, with one child in two components, and without the children 1
and 4. -/
def scatteredPlaces : Layering ℚ := fun _ =>
  .ok [[⟨2, 0, 5⟩, ⟨7, 0, 1⟩, ⟨0, 1, 5⟩], [⟨2, 3, 3⟩], [⟨3, 0, 0⟩, ⟨2, 0, 0⟩]]

/-- Five children are ranked all the same. -/
theorem scatteredChildren_ranked :
    scatteredPlaces.OncePerComponent ∧
      rankChildren scatteredPlaces 5 [(2, 0)] = .ok [[[2, 0]], [[1]], [[3]], [[4]]] ∧
      ∃ answered, ([(2, 0)] = ([] : List (ℕ × ℕ)) ∧ answered = [] ∨ scatteredPlaces [(2, 0)] = .ok answered) ∧
        rankByTables? 5 [(2, 0)] answered = some [[[2, 0]], [[1]], [[3]], [[4]]] ∧
        RankedComponents 5 answered [[[2, 0]], [[1]], [[3]], [[4]]] := by
  have once : scatteredPlaces.OncePerComponent := by
    intro edges components answered
    cases answered
    decide
  have ranked : rankChildren scatteredPlaces 5 [(2, 0)] = .ok [[[2, 0]], [[1]], [[3]], [[4]]] := by cbv
  exact ⟨once, ranked, rankChildren_components once ranked⟩

end BoxDiagram
