/-
Module: BoxDiagram.Proofs.RankOrder
Purpose: Layers run along the edges.  Coordinates are put into levels by a tolerance, and coordinates that are at least
  the tolerance apart come into different levels; so where the edges of a component all rise or all fall, the source of
  every edge is in an earlier layer than its target.
Main exports: tolerance, levelOf_lt_levelOf, Rises, Falls, Ranks.Before, ranksOfCoordinates_before, Separated,
  rankChildren_before
-/
import BoxDiagram.Proofs.Paths
import BoxDiagram.Proofs.RankPartition
import Mathlib.Algebra.Order.Ring.Rat
import Mathlib.Tactic.Linarith
import Mathlib.Tactic.NormNum

namespace BoxDiagram

/-! ### Levels -/

/-- Coordinates that are less than this apart count as one. -/
def tolerance : ℚ := 1 / 1000000

theorem tolerance_pos : 0 < tolerance := by
  rw [tolerance]
  norm_num

theorem close_iff {a b : ℚ} : Coordinate.close a b = true ↔ a < b + tolerance ∧ b < a + tolerance := by
  have unfolded : Coordinate.close a b = decide (-(1 / 1000000) < a - b ∧ a - b < 1 / 1000000) := rfl
  rw [unfolded, decide_eq_true_eq, tolerance]
  constructor
  · rintro ⟨low, high⟩
    constructor <;> linarith
  · rintro ⟨low, high⟩
    constructor <;> linarith

/-- Every level is at least the tolerance above the one before it. -/
def Spaced (levels : List ℚ) : Prop := levels.Pairwise fun low high => low + tolerance ≤ high

/-- The coordinate is at the level or above it by less than the tolerance. -/
def Covers (level y : ℚ) : Prop := level ≤ y ∧ y < level + tolerance

/-- Of sorted coordinates those are kept that are the tolerance above the last one kept, and they cover all others.  The
induction carries along the last one that was kept: it is at most every coordinate that follows. -/
theorem dropClose_go_spec {last : ℚ} {ys : List ℚ} (sorted : (last :: ys).Pairwise (· ≤ ·)) :
    Spaced (last :: dropClose.go last ys) ∧ (∀ level ∈ dropClose.go last ys, last ≤ level) ∧
      ∀ y ∈ last :: ys, ∃ level ∈ last :: dropClose.go last ys, Covers level y := by
  have coversSelf : ∀ y : ℚ, Covers y y := fun y => ⟨le_refl y, lt_add_of_pos_right y tolerance_pos⟩
  induction ys generalizing last with
  | nil =>
      refine ⟨List.pairwise_singleton _ _, fun level mem => absurd mem List.not_mem_nil, ?_⟩
      intro y mem
      rw [List.mem_singleton.mp mem]
      exact ⟨last, List.mem_cons_self, coversSelf last⟩
  | cons y rest ih =>
      obtain ⟨least, sortedRest⟩ := List.pairwise_cons.mp sorted
      obtain ⟨leastRest, sortedBeyond⟩ := List.pairwise_cons.mp sortedRest
      have above : last ≤ y := least y List.mem_cons_self
      rw [dropClose.go]
      split
      · rename_i isClose
        obtain ⟨spaced, beyond, covered⟩ :=
          ih (List.pairwise_cons.mpr ⟨fun z mem => least z (List.mem_cons_of_mem _ mem), sortedBeyond⟩)
        refine ⟨spaced, beyond, ?_⟩
        intro z mem
        rcases List.mem_cons.mp mem with rfl | later
        · exact covered z List.mem_cons_self
        · rcases List.mem_cons.mp later with rfl | inRest
          · exact ⟨last, List.mem_cons_self, above, (close_iff.mp isClose).1⟩
          · exact covered z (List.mem_cons_of_mem _ inRest)
      · rename_i notClose
        obtain ⟨spaced, beyond, covered⟩ := ih sortedRest
        have apart : last + tolerance ≤ y := by
          by_contra near
          apply notClose
          rw [close_iff]
          have positive := tolerance_pos
          constructor <;> linarith
        refine ⟨List.pairwise_cons.mpr ⟨?_, spaced⟩, ?_, ?_⟩
        · intro level mem
          rcases List.mem_cons.mp mem with rfl | later
          · exact apart
          · exact apart.trans (beyond level later)
        · intro level mem
          rcases List.mem_cons.mp mem with rfl | later
          · exact above
          · exact above.trans (beyond level later)
        · intro z mem
          rcases List.mem_cons.mp mem with rfl | later
          · exact ⟨z, List.mem_cons_self, coversSelf z⟩
          · obtain ⟨level, isLevel, covers⟩ := covered z later
            exact ⟨level, List.mem_cons_of_mem _ isLevel, covers⟩

theorem levelsOf_spec (members : List (PlacedVertex ℚ)) :
    Spaced (levelsOf members) ∧ ∀ m ∈ members, ∃ level ∈ levelsOf members, Covers level m.y := by
  have sorted : ((members.map (·.y)).mergeSort Coordinate.before).Pairwise fun a b : ℚ => a ≤ b :=
    (List.pairwise_mergeSort Coordinate.before_trans Coordinate.before_total _).imp fun before =>
      of_decide_eq_true before
  have isSorted : ∀ m ∈ members, m.y ∈ (members.map (·.y)).mergeSort Coordinate.before :=
    fun m mem => List.mem_mergeSort.mpr (List.mem_map_of_mem mem)
  rw [levelsOf]
  cases ys : (members.map (·.y)).mergeSort Coordinate.before with
  | nil =>
      refine ⟨.nil, fun m mem => ?_⟩
      have impossible := isSorted m mem
      rw [ys] at impossible
      exact absurd impossible List.not_mem_nil
  | cons y rest =>
      rw [ys] at sorted isSorted
      obtain ⟨spaced, -, covered⟩ := dropClose_go_spec sorted
      exact ⟨spaced, fun m mem => covered m.y (isSorted m mem)⟩

/-- The first level close to a coordinate is the one that covers it: the levels below it are too far away. -/
theorem levelOf_eq {levels : List ℚ} (spaced : Spaced levels) {y : ℚ} {i : ℕ} (inside : i < levels.length)
    (covers : Covers levels[i] y) : levelOf levels y = i := by
  have isFirst : levels.findIdx? (fun level => Coordinate.close level y) = some i := by
    rw [List.findIdx?_eq_some_iff_getElem]
    refine ⟨inside, close_iff.mpr ⟨?_, covers.2⟩, ?_⟩
    · exact covers.1.trans_lt (lt_add_of_pos_right y tolerance_pos)
    · intro j before isClose
      have apart := List.pairwise_iff_getElem.mp spaced j i (before.trans inside) inside before
      exact absurd (close_iff.mp isClose).2 (not_lt.mpr (apart.trans covers.1))
  rw [levelOf, isFirst, Option.getD_some]

/-- Coordinates that are at least the tolerance apart are in different levels. -/
theorem levelOf_lt_levelOf {levels : List ℚ} (spaced : Spaced levels) {a b : ℚ}
    (aCovered : ∃ level ∈ levels, Covers level a) (bCovered : ∃ level ∈ levels, Covers level b)
    (apart : a + tolerance ≤ b) : levelOf levels a < levelOf levels b := by
  obtain ⟨_, aMem, aCovers⟩ := aCovered
  obtain ⟨_, bMem, bCovers⟩ := bCovered
  obtain ⟨i, iInside, rfl⟩ := List.getElem_of_mem aMem
  obtain ⟨j, jInside, rfl⟩ := List.getElem_of_mem bMem
  rw [levelOf_eq spaced iInside aCovers, levelOf_eq spaced jInside bCovers]
  by_contra notBefore
  have below : levels[j] ≤ levels[i] := by
    rcases Nat.lt_or_ge j i with before | same
    · have step := List.pairwise_iff_getElem.mp spaced j i jInside iInside before
      exact (le_add_of_nonneg_right tolerance_pos.le).trans step
    · have equal : i = j := Nat.le_antisymm same (Nat.le_of_not_lt notBefore)
      subst equal
      exact le_refl _
  have high := bCovers.2
  have low := aCovers.1
  linarith

/-! ### The sense of edges -/

/-- Every edge between the vertices leads to a higher one, by at least the tolerance. -/
def Rises (edges : List (ℕ × ℕ)) (vertices : List (PlacedVertex ℚ)) : Prop :=
  ∀ a ∈ vertices, ∀ b ∈ vertices, (a.vertex, b.vertex) ∈ edges → a.y + tolerance ≤ b.y

/-- Every edge between the vertices leads to a lower one, by at least the tolerance. -/
def Falls (edges : List (ℕ × ℕ)) (vertices : List (PlacedVertex ℚ)) : Prop :=
  ∀ a ∈ vertices, ∀ b ∈ vertices, (a.vertex, b.vertex) ∈ edges → b.y + tolerance ≤ a.y

instance (edges : List (ℕ × ℕ)) (vertices : List (PlacedVertex ℚ)) : Decidable (Rises edges vertices) :=
  inferInstanceAs (Decidable (∀ a ∈ vertices, ∀ b ∈ vertices, (a.vertex, b.vertex) ∈ edges → a.y + tolerance ≤ b.y))

instance (edges : List (ℕ × ℕ)) (vertices : List (PlacedVertex ℚ)) : Decidable (Falls edges vertices) :=
  inferInstanceAs (Decidable (∀ a ∈ vertices, ∀ b ∈ vertices, (a.vertex, b.vertex) ∈ edges → b.y + tolerance ≤ a.y))

/-- The first child is in an earlier layer than the second one. -/
def Ranks.Before (ranks : Ranks) (s t : ℕ) : Prop :=
  ∃ front layer back, ranks = front ++ layer :: back ∧ s ∈ layer ∧ t ∈ back.flatten

theorem Ranks.before_of_getElem {ranks : Ranks} {s t i j : ℕ} (order : i < j) (inside : j < ranks.length)
    (sMem : s ∈ ranks[i]) (tMem : t ∈ ranks[j]) : ranks.Before s t := by
  refine ⟨ranks.take i, ranks[i], ranks.drop (i + 1), ?_, sMem, ?_⟩
  · rw [List.getElem_cons_drop, List.take_append_drop]
  · refine List.mem_flatten_of_mem (List.mem_drop_iff_getElem.mpr ⟨j - (i + 1), ?_, ?_⟩) tMem
    · omega
    · congr 1
      omega

/-- The level of a member is found under its number. -/
theorem memberLevel?_eq_some_iff {κ : Type} [Coordinate κ] {members : List (PlacedVertex κ)}
    (once : (members.map (·.vertex)).Nodup) {levels : List κ} {i k : ℕ} :
    memberLevel? levels members i = some k ↔ ∃ m ∈ members, m.vertex = i ∧ levelOf levels m.y = k := by
  rw [memberLevel?, Option.map_eq_some_iff]
  constructor
  · rintro ⟨m, found, isLevel⟩
    exact ⟨m, List.mem_of_find?_eq_some found, by simpa using List.find?_some found, isLevel⟩
  · rintro ⟨m, mem, rfl, isLevel⟩
    exact ⟨m, find?_key_eq_some once mem, isLevel⟩

section Component

variable {edges : List (ℕ × ℕ)} {members : List (PlacedVertex ℚ)} {a b : PlacedVertex ℚ}

/-- The levels of the ends of those edges that join members. -/
def endLevels (levels : List ℚ) (members : List (PlacedVertex ℚ)) (edges : List (ℕ × ℕ)) : List (ℕ × ℕ) :=
  edges.filterMap fun (s, t) =>
    match memberLevel? levels members s, memberLevel? levels members t with
    | some a, some b => some (a, b)
    | _, _ => none

theorem runsBackward_eq (levels : List ℚ) (members : List (PlacedVertex ℚ)) (edges : List (ℕ × ℕ)) :
    runsBackward levels members edges = decide ((endLevels levels members edges).countP (fun e => e.1 < e.2) <
      (endLevels levels members edges).countP fun e => e.2 < e.1) := rfl

theorem mem_endLevels_iff (once : (members.map (·.vertex)).Nodup) {levels : List ℚ} {i j : ℕ} :
    (i, j) ∈ endLevels levels members edges ↔ ∃ a ∈ members, ∃ b ∈ members, (a.vertex, b.vertex) ∈ edges ∧
      levelOf levels a.y = i ∧ levelOf levels b.y = j := by
  rw [endLevels, List.mem_filterMap]
  constructor
  · rintro ⟨⟨s, t⟩, isEdge, ends⟩
    dsimp only at ends
    split at ends
    · rename_i sLevel tLevel
      cases ends
      obtain ⟨a, aMem, rfl, aLevel⟩ := (memberLevel?_eq_some_iff once).mp sLevel
      obtain ⟨b, bMem, rfl, bLevel⟩ := (memberLevel?_eq_some_iff once).mp tLevel
      exact ⟨a, aMem, b, bMem, isEdge, aLevel, bLevel⟩
    · cases ends
  · rintro ⟨a, aMem, b, bMem, isEdge, aLevel, bLevel⟩
    refine ⟨(a.vertex, b.vertex), isEdge, ?_⟩
    dsimp only
    rw [(memberLevel?_eq_some_iff once).mpr ⟨a, aMem, rfl, aLevel⟩,
      (memberLevel?_eq_some_iff once).mpr ⟨b, bMem, rfl, bLevel⟩]

/-- Rising edges are no reason to turn the layers round. -/
theorem runsBackward_of_rises (once : (members.map (·.vertex)).Nodup) (rises : Rises edges members) :
    runsBackward (levelsOf members) members edges = false := by
  obtain ⟨spaced, covered⟩ := levelsOf_spec members
  have none : (endLevels (levelsOf members) members edges).countP (fun e => e.2 < e.1) = 0 := by
    rw [List.countP_eq_zero]
    rintro ⟨i, j⟩ mem
    obtain ⟨a, aMem, b, bMem, isEdge, rfl, rfl⟩ := (mem_endLevels_iff once).mp mem
    have up := levelOf_lt_levelOf spaced (covered a aMem) (covered b bMem) (rises a aMem b bMem isEdge)
    simpa using up.le
  rw [runsBackward_eq, none]
  simp

/-- Falling edges turn the layers round, when there is one. -/
theorem runsBackward_of_falls (once : (members.map (·.vertex)).Nodup) (falls : Falls edges members)
    (aMem : a ∈ members) (bMem : b ∈ members) (isEdge : (a.vertex, b.vertex) ∈ edges) :
    runsBackward (levelsOf members) members edges = true := by
  obtain ⟨spaced, covered⟩ := levelsOf_spec members
  have down : ∀ e ∈ endLevels (levelsOf members) members edges, e.2 < e.1 := by
    rintro ⟨i, j⟩ mem
    obtain ⟨a, aMem, b, bMem, isEdge, rfl, rfl⟩ := (mem_endLevels_iff once).mp mem
    exact levelOf_lt_levelOf spaced (covered b bMem) (covered a aMem) (falls a aMem b bMem isEdge)
  have none : (endLevels (levelsOf members) members edges).countP (fun e => e.1 < e.2) = 0 := by
    rw [List.countP_eq_zero]
    intro e mem
    simpa using (down e mem).le
  have some : 0 < (endLevels (levelsOf members) members edges).countP fun e => e.2 < e.1 := by
    have mem : (levelOf (levelsOf members) a.y, levelOf (levelsOf members) b.y) ∈
        endLevels (levelsOf members) members edges :=
      (mem_endLevels_iff once).mpr ⟨a, aMem, b, bMem, isEdge, rfl, rfl⟩
    exact List.countP_pos_iff.mpr ⟨_, mem, decide_eq_true (down _ mem)⟩
  rw [runsBackward_eq, none]
  exact decide_eq_true some

/-- A member is in the layer of its level. -/
theorem mem_ranksOfCoordinates (edges : List (ℕ × ℕ)) (mem : a ∈ members) {backward : Bool}
    (turned : runsBackward (levelsOf members) members edges = backward) :
    ∃ inside : levelAt backward (levelsOf members).length (levelOf (levelsOf members) a.y) <
        (ranksOfCoordinates members edges).length,
      a.vertex ∈ (ranksOfCoordinates members edges)[levelAt backward (levelsOf members).length
        (levelOf (levelsOf members) a.y)] := by
  have below := levelOf_lt (levelsOf_ne_nil (List.ne_nil_of_mem mem)) a.y
  have count : (ranksOfCoordinates members edges).length = (levelsOf members).length := by
    rw [ranksOfCoordinates, List.length_map, List.length_range]
  refine ⟨count ▸ levelAt_lt below backward, ?_⟩
  simp only [ranksOfCoordinates, turned, List.getElem_map, List.getElem_range]
  refine List.mem_map_of_mem (List.mem_mergeSort.mpr (List.mem_filter.mpr ⟨mem, beq_iff_eq.mpr ?_⟩))
  exact (levelAt_levelAt below backward).symm

/-- The source of an edge is in an earlier layer than its target, whether all edges rise or all fall. -/
theorem ranksOfCoordinates_before (once : (members.map (·.vertex)).Nodup)
    (steep : Rises edges members ∨ Falls edges members) (aMem : a ∈ members) (bMem : b ∈ members)
    (isEdge : (a.vertex, b.vertex) ∈ edges) : (ranksOfCoordinates members edges).Before a.vertex b.vertex := by
  obtain ⟨spaced, covered⟩ := levelsOf_spec members
  have bBelow := levelOf_lt (levelsOf_ne_nil (List.ne_nil_of_mem bMem)) b.y
  have aBelow := levelOf_lt (levelsOf_ne_nil (List.ne_nil_of_mem aMem)) a.y
  rcases steep with rises | falls
  · have turned := runsBackward_of_rises once rises
    obtain ⟨_, aLayer⟩ := mem_ranksOfCoordinates edges aMem turned
    obtain ⟨inside, bLayer⟩ := mem_ranksOfCoordinates edges bMem turned
    refine Ranks.before_of_getElem ?_ inside aLayer bLayer
    exact levelOf_lt_levelOf spaced (covered a aMem) (covered b bMem) (rises a aMem b bMem isEdge)
  · have turned := runsBackward_of_falls once falls aMem bMem isEdge
    obtain ⟨_, aLayer⟩ := mem_ranksOfCoordinates edges aMem turned
    obtain ⟨inside, bLayer⟩ := mem_ranksOfCoordinates edges bMem turned
    refine Ranks.before_of_getElem ?_ inside aLayer bLayer
    have down := levelOf_lt_levelOf spaced (covered b bMem) (covered a aMem) (falls a aMem b bMem isEdge)
    simp only [levelAt, if_true]
    omega

end Component

/-! ### Components -/

/-- What the components of a layering have to be for their coordinates to tell the sense of the edges: every vertex is
given once, the two ends of an edge are in one component, and the edges in a component all rise or all fall. -/
structure Separated (edges : List (ℕ × ℕ)) (components : List (List (PlacedVertex ℚ))) : Prop where
  once : (components.flatten.map (·.vertex)).Nodup
  together : ∀ e ∈ edges, ∃ component ∈ components,
    (∃ a ∈ component, a.vertex = e.1) ∧ ∃ b ∈ component, b.vertex = e.2
  steep : ∀ component ∈ components, Rises edges component ∨ Falls edges component

/-- Where no vertex is given twice, the layers of a component are those of its vertices that are children. -/
theorem mem_componentRanks {count : ℕ} {edges : List (ℕ × ℕ)} {components : List (List (PlacedVertex ℚ))}
    {seen : List ℕ} (once : (components.flatten.map (·.vertex)).Nodup)
    (fresh : ∀ m ∈ components.flatten, m.vertex ∉ seen) {component : List (PlacedVertex ℚ)}
    (mem : component ∈ components) (notEmpty : (component.filter fun m => m.vertex < count) ≠ []) :
    ranksOfCoordinates (component.filter fun m => m.vertex < count) edges ∈
      (componentRanks count edges components seen).1 := by
  induction components generalizing seen with
  | nil => exact absurd mem List.not_mem_nil
  | cons first rest ih =>
      rw [List.flatten_cons, List.map_append, List.nodup_append] at once
      obtain ⟨-, onceRest, disjoint⟩ := once
      rw [List.flatten_cons, List.forall_mem_append] at fresh
      obtain ⟨freshFirst, freshRest⟩ := fresh
      have members : (first.filter fun m => decide (m.vertex < count) && !seen.contains m.vertex) =
          first.filter fun m => m.vertex < count := by
        apply List.filter_congr
        intro m isMember
        have isNew : seen.contains m.vertex = false := by simpa using freshFirst m isMember
        rw [isNew, Bool.not_false, Bool.and_true]
      rw [componentRanks]
      dsimp only
      rw [members]
      rcases List.mem_cons.mp mem with rfl | inRest
      · rw [if_neg fun empty => notEmpty (List.isEmpty_iff.mp empty)]
        exact List.mem_cons_self
      · split
        · exact ih onceRest freshRest inRest
        · apply List.mem_cons_of_mem
          refine ih onceRest ?_ inRest
          intro m isMember isSeen
          rcases List.mem_append.mp isSeen with isFirst | isOld
          · obtain ⟨n, isFirst, same⟩ := List.mem_map.mp isFirst
            exact disjoint _ (List.mem_map_of_mem (List.mem_of_mem_filter isFirst)) _
              (List.mem_map_of_mem isMember) same
          · exact freshRest m isMember isOld

/-- The layers of some component lead from the source of an edge between children to its target. -/
theorem rankChildren_before {layering : Layering ℚ} {count : ℕ} {edges : List (ℕ × ℕ)} {ranks : List Ranks}
    (ranked : rankChildren layering count edges = .ok ranks)
    (separated : ∀ components, layering edges = .ok components → Separated edges components) {s t : ℕ}
    (isEdge : (s, t) ∈ edges) (sChild : s < count) (tChild : t < count) :
    ∃ layers ∈ ranks, layers.Before s t := by
  obtain ⟨components, answered, rfl⟩ := rankChildren_eq_ok ranked
  rcases answered with ⟨noEdges, -⟩ | answered
  · rw [noEdges] at isEdge
    exact absurd isEdge List.not_mem_nil
  · obtain ⟨once, together, steep⟩ := separated components answered
    obtain ⟨component, isComponent, ⟨a, aMem, rfl⟩, b, bMem, rfl⟩ := together (s, t) isEdge
    have aMember : a ∈ component.filter fun m => m.vertex < count :=
      List.mem_filter.mpr ⟨aMem, decide_eq_true sChild⟩
    have bMember : b ∈ component.filter fun m => m.vertex < count :=
      List.mem_filter.mpr ⟨bMem, decide_eq_true tChild⟩
    refine ⟨ranksOfCoordinates (component.filter fun m => m.vertex < count) edges, ?_, ?_⟩
    · rw [List.mem_mergeSort]
      apply List.mem_append_left
      exact mem_componentRanks once (fun _ _ => List.not_mem_nil) isComponent (List.ne_nil_of_mem aMember)
    · have onceHere : (component.map (·.vertex)).Nodup :=
        once.sublist ((List.sublist_flatten_of_mem isComponent).map _)
      apply ranksOfCoordinates_before (onceHere.sublist (List.filter_sublist.map _)) _ aMember bMember isEdge
      rcases steep component isComponent with rises | falls
      · exact .inl fun m mMem n nMem => rises m (List.mem_of_mem_filter mMem) n (List.mem_of_mem_filter nMem)
      · exact .inr fun m mMem n nMem => falls m (List.mem_of_mem_filter mMem) n (List.mem_of_mem_filter nMem)

end BoxDiagram
