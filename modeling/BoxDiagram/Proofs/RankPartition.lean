/-
Module: BoxDiagram.Proofs.RankPartition
Purpose: The layers of the children of a container hold every child once, whatever coordinates a layering gives,
  as long as no component of it gives a vertex twice.
Main exports: Layering.OncePerComponent, ranksOfCoordinates_perm, componentRanks_perm, rankChildren_perm
-/
import BoxDiagram.Proofs.PlacementSteps
import Mathlib.Data.List.Nodup
import Mathlib.Data.List.Perm.Basic
import Mathlib.Data.List.Range

namespace BoxDiagram

/-! ### Lists cut by a key -/

/-- Cutting a list by a key and joining the parts keeps every element whose key is among those of the cut.  The
induction is on the keys: the part of the first one is taken off, and the others do not see it. -/
theorem flatten_filters_perm {α : Type} (key : α → ℕ) (xs : List α) {keys : List ℕ} (distinct : keys.Nodup) :
    (keys.map fun k => xs.filter fun x => key x == k).flatten.Perm (xs.filter fun x => keys.contains (key x)) := by
  induction keys with
  | nil =>
      rw [List.map_nil, List.flatten_nil]
      have none : (xs.filter fun x => ([] : List ℕ).contains (key x)) = [] :=
        List.filter_eq_nil_iff.mpr fun x _ => by simp
      rw [none]
  | cons k ks ih =>
      obtain ⟨fresh, distinctRest⟩ := List.nodup_cons.mp distinct
      have first : ((xs.filter fun x => (k :: ks).contains (key x)).filter fun x => key x == k) =
          xs.filter fun x => key x == k := by
        rw [List.filter_filter]
        refine List.filter_congr fun x _ => ?_
        rw [List.contains_cons]
        cases key x == k <;> rfl
      have others : ((xs.filter fun x => (k :: ks).contains (key x)).filter fun x => !(key x == k)) =
          xs.filter fun x => ks.contains (key x) := by
        rw [List.filter_filter]
        refine List.filter_congr fun x _ => ?_
        rw [List.contains_cons]
        by_cases same : key x = k
        · rw [same]
          simpa using fresh
        · have apart : (key x == k) = false := beq_false_of_ne same
          rw [apart, Bool.false_or, Bool.not_false, Bool.true_and]
      rw [List.map_cons, List.flatten_cons]
      refine ((ih distinctRest).append_left _).trans ?_
      rw [← first, ← others]
      exact List.filter_append_perm _ _

variable {κ : Type} [Coordinate κ]

/-- No component of the answers of a layering gives a vertex twice. -/
def Layering.OncePerComponent (layering : Layering κ) : Prop :=
  ∀ edges components, layering edges = .ok components →
    ∀ component ∈ components, (component.map (·.vertex)).Nodup

/-! ### Levels -/

theorem levelsOf_ne_nil {members : List (PlacedVertex κ)} (notEmpty : members ≠ []) : levelsOf members ≠ [] := by
  have sorted : (members.map (·.y)).mergeSort Coordinate.before ≠ [] := by
    intro empty
    have length : ((members.map (·.y)).mergeSort Coordinate.before).length = (members.map (·.y)).length :=
      List.length_mergeSort _
    rw [empty, List.length_nil, List.length_map] at length
    exact notEmpty (List.length_eq_zero_iff.mp length.symm)
  rw [levelsOf]
  cases ys : (members.map (·.y)).mergeSort Coordinate.before with
  | nil => exact absurd ys sorted
  | cons y rest => exact List.cons_ne_nil _ _

theorem levelOf_lt {levels : List κ} (notEmpty : levels ≠ []) (y : κ) : levelOf levels y < levels.length := by
  rw [levelOf]
  cases found : levels.findIdx? fun level => Coordinate.close level y with
  | none => exact List.length_pos_iff.mpr notEmpty
  | some i => exact (List.findIdx?_eq_some_iff_findIdx_eq.mp found).1

/-- The level at place `k` of `levels` levels, which are turned round or not. -/
def levelAt (backward : Bool) (levels k : ℕ) : ℕ := if backward then levels - 1 - k else k

theorem levelAt_lt {levels k : ℕ} (inside : k < levels) (backward : Bool) : levelAt backward levels k < levels := by
  rw [levelAt]
  split <;> omega

theorem levelAt_levelAt {levels k : ℕ} (inside : k < levels) (backward : Bool) :
    levelAt backward levels (levelAt backward levels k) = k := by
  cases backward with
  | false => rfl
  | true =>
      simp only [levelAt, if_true]
      omega

theorem nodup_levelAt (backward : Bool) (levels : ℕ) : ((List.range levels).map (levelAt backward levels)).Nodup := by
  refine List.Nodup.map_on ?_ List.nodup_range
  intro j jMem k kMem same
  rw [← levelAt_levelAt (List.mem_range.mp jMem) backward, same, levelAt_levelAt (List.mem_range.mp kMem) backward]

theorem mem_levelAt {backward : Bool} {levels k : ℕ} (inside : k < levels) :
    k ∈ (List.range levels).map (levelAt backward levels) :=
  List.mem_map.mpr ⟨levelAt backward levels k, List.mem_range.mpr (levelAt_lt inside backward),
    levelAt_levelAt inside backward⟩

/-- Turned round or not, the layers of a component hold its members. -/
theorem ranksOfCoordinates_perm (members : List (PlacedVertex κ)) (edges : List (ℕ × ℕ)) :
    (ranksOfCoordinates members edges).flatten.Perm (members.map (·.vertex)) := by
  rcases eq_or_ne members [] with rfl | notEmpty
  · simp [ranksOfCoordinates, levelsOf, dropClose]
  · have below := levelOf_lt (levelsOf_ne_nil notEmpty)
    generalize backwardIs : runsBackward (levelsOf members) members edges = backward
    let turned := levelAt backward (levelsOf members).length
    let layer := fun k => members.filter fun m => levelOf (levelsOf members) m.y == k
    have whole : (members.filter fun m =>
        ((List.range (levelsOf members).length).map turned).contains (levelOf (levelsOf members) m.y)) = members :=
      List.filter_eq_self.mpr fun m _ => List.contains_iff_mem.mpr (mem_levelAt (below m.y))
    have sorted : (ranksOfCoordinates members edges).flatten.Perm
        ((List.range (levelsOf members).length).map fun k => (layer (turned k)).map (·.vertex)).flatten := by
      rw [ranksOfCoordinates, backwardIs, ← List.flatMap_def, ← List.flatMap_def]
      exact List.Perm.flatMap_left _ fun k _ => (List.mergeSort_perm _ _).map _
    have joined : ((List.range (levelsOf members).length).map fun k => (layer (turned k)).map (·.vertex)).flatten =
        (((List.range (levelsOf members).length).map turned).map layer).flatten.map (·.vertex) := by
      rw [List.map_flatten, List.map_map, List.map_map]
      rfl
    have cut := flatten_filters_perm (fun m => levelOf (levelsOf members) m.y) members
      (nodup_levelAt backward (levelsOf members).length)
    rw [whole] at cut
    rw [joined] at sorted
    exact sorted.trans (cut.map _)

/-! ### Components -/

/-- What the components before have stays seen, and the layers of the components that follow add the children they
hold. -/
theorem componentRanks_perm (count : ℕ) (edges : List (ℕ × ℕ)) (components : List (List (PlacedVertex κ)))
    (seen : List ℕ) :
    (componentRanks count edges components seen).2.Perm
      ((componentRanks count edges components seen).1.flatten.flatten ++ seen) := by
  induction components generalizing seen with
  | nil => exact List.Perm.refl _
  | cons component rest ih =>
      rw [componentRanks]
      dsimp only
      split
      · exact ih seen
      · generalize component.filter (fun m => decide (m.vertex < count) && !seen.contains m.vertex) = members
        have later := ih (members.map (·.vertex) ++ seen)
        have here := ranksOfCoordinates_perm members edges
        rw [List.flatten_cons, List.flatten_append, List.append_assoc]
        exact later.trans ((List.perm_append_comm_assoc _ _ _).trans (here.symm.append_right _))

/-- Only children are seen, and none twice.  A component is cut down to what is new before it is added, so the
children seen before count as well. -/
theorem componentRanks_nodup (count : ℕ) (edges : List (ℕ × ℕ)) {components : List (List (PlacedVertex κ))}
    {seen : List ℕ} (once : ∀ component ∈ components, (component.map (·.vertex)).Nodup) (distinct : seen.Nodup)
    (below : ∀ i ∈ seen, i < count) :
    (componentRanks count edges components seen).2.Nodup ∧
      ∀ i ∈ (componentRanks count edges components seen).2, i < count := by
  induction components generalizing seen with
  | nil => exact ⟨distinct, below⟩
  | cons component rest ih =>
      obtain ⟨onceHere, onceRest⟩ := List.forall_mem_cons.mp once
      rw [componentRanks]
      dsimp only
      split
      · exact ih onceRest distinct below
      · have new : ∀ m ∈ component.filter (fun m => decide (m.vertex < count) && !seen.contains m.vertex),
            m.vertex < count ∧ m.vertex ∉ seen := by
          intro m mem
          have kept := (List.mem_filter.mp mem).2
          rw [Bool.and_eq_true, decide_eq_true_eq, Bool.not_eq_true', ← Bool.not_eq_true, List.contains_iff_mem] at kept
          exact kept
        refine ih onceRest ?_ ?_
        · refine List.Nodup.append (onceHere.sublist (List.filter_sublist.map _)) distinct ?_
          intro i memHere memSeen
          obtain ⟨m, mem, rfl⟩ := List.mem_map.mp memHere
          exact (new m mem).2 memSeen
        · intro i mem
          rcases List.mem_append.mp mem with memHere | memSeen
          · obtain ⟨m, member, rfl⟩ := List.mem_map.mp memHere
            exact (new m member).1
          · exact below i memSeen

/-- Children that are components of their own are found again in order. -/
theorem flatten_flatten_alone (children : List ℕ) : (children.map fun i => [[i]]).flatten.flatten = children := by
  induction children with
  | nil => rfl
  | cons i rest ih =>
      rw [List.map_cons, List.flatten_cons, List.flatten_append, ih]
      rfl

/-- Every child is in one layer of one component, once. -/
theorem rankChildren_perm {layering : Layering κ} (once : layering.OncePerComponent) {count : ℕ}
    {edges : List (ℕ × ℕ)} {ranks : List Ranks} (ranked : rankChildren layering count edges = .ok ranks) :
    ranks.flatten.flatten.Perm (List.range count) := by
  obtain ⟨components, answered, rfl⟩ := rankChildren_eq_ok ranked
  have onceHere : ∀ component ∈ components, (component.map (·.vertex)).Nodup := by
    rcases answered with ⟨-, rfl⟩ | answered
    · exact fun component mem => absurd mem List.not_mem_nil
    · exact once edges components answered
  have placed := componentRanks_perm count edges components []
  have seenOnce := componentRanks_nodup count edges onceHere List.nodup_nil fun i mem => absurd mem List.not_mem_nil
  rw [List.append_nil] at placed
  generalize componentRanks count edges components [] = result at placed seenOnce ⊢
  have found : result.2.Perm ((List.range count).filter fun i => result.2.contains i) := by
    refine (List.perm_ext_iff_of_nodup seenOnce.1 (List.nodup_range.filter _)).mpr fun i => ?_
    rw [List.mem_filter, List.mem_range, List.contains_iff_mem]
    exact ⟨fun mem => ⟨seenOnce.2 i mem, mem⟩, And.right⟩
  refine (List.mergeSort_perm _ _).flatten.flatten.trans ?_
  rw [List.flatten_append, List.flatten_append, flatten_flatten_alone]
  exact ((placed.symm.trans found).append_right _).trans (List.filter_append_perm _ _)

end BoxDiagram
