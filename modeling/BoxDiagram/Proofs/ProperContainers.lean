/-
Module: BoxDiagram.Proofs.ProperContainers
Purpose: The common container of two paths is at the end of the longest common beginning of what leads to their ends.  In
  a layout request without repeated ids it is the innermost node that has both ends properly inside.
Main exports: LongestCommonPrefix, commonPrefix_longest, lowestCommonContainer_eq_getLast?, lowestCommonContainer_comm,
  InnermostAround, DistinctIds.innermostAround, lowestCommonContainer_spec
-/
import BoxDiagram.Proofs.CommonContainer

namespace BoxDiagram

/-! ### Common beginnings -/

/-- Both lists begin with `common`, and so does every other list that both begin with. -/
structure LongestCommonPrefix (as bs common : List String) : Prop where
  left : common <+: as
  right : common <+: bs
  longest : ∀ q, q <+: as → q <+: bs → q <+: common

variable {s t q : List String}

theorem prefix_commonPrefix_iff : q <+: commonPrefix s t ↔ q <+: s ∧ q <+: t := by
  induction s, t using commonPrefix.induct generalizing q with
  | case1 a as bs ih =>
      cases q with
      | nil => simp
      | cons c q => simp only [commonPrefix, if_true, List.cons_prefix_cons, ih, and_assoc, and_left_comm, and_self_left]
  | case2 a as b bs differ =>
      cases q with
      | nil => simp
      | cons c q =>
          simp only [commonPrefix, if_neg differ, List.cons_prefix_cons, List.prefix_nil, reduceCtorEq, false_iff]
          rintro ⟨⟨rfl, -⟩, rfl, -⟩
          exact differ rfl
  | case3 s t ended =>
      cases s with
      | nil => simp +contextual [commonPrefix]
      | cons a s =>
          cases t with
          | nil => simp +contextual [commonPrefix]
          | cons b t => exact (ended a s b t rfl rfl).elim

/-- A list is told by the lists it begins with. -/
theorem eq_of_prefix_iff {as bs : List String} (same : ∀ q, q <+: as ↔ q <+: bs) : as = bs := by
  have left : as <+: bs := (same as).mp (List.prefix_refl as)
  have right : bs <+: as := (same bs).mpr (List.prefix_refl bs)
  exact left.eq_of_length_le right.length_le

theorem commonPrefix_longest (s t : List String) : LongestCommonPrefix s t (commonPrefix s t) := by
  obtain ⟨left, right⟩ := prefix_commonPrefix_iff.mp (List.prefix_refl (commonPrefix s t))
  exact ⟨left, right, fun q begins begins' => prefix_commonPrefix_iff.mpr ⟨begins, begins'⟩⟩

theorem commonPrefix_comm (s t : List String) : commonPrefix s t = commonPrefix t s := by
  apply eq_of_prefix_iff
  intro q
  rw [prefix_commonPrefix_iff, prefix_commonPrefix_iff, and_comm]

/-- What two paths have in common before their ends. -/
def commonAround (s t : List String) : List String := commonPrefix s.dropLast t.dropLast

theorem prefix_commonAround_iff :
    q <+: commonAround s t ↔ q <+: commonPrefix s t ∧ q.length ≤ s.length - 1 ∧ q.length ≤ t.length - 1 := by
  simp only [commonAround, prefix_commonPrefix_iff, List.dropLast_eq_take, List.prefix_take_iff]
  constructor
  · rintro ⟨⟨left, shortLeft⟩, right, shortRight⟩
    exact ⟨⟨left, right⟩, shortLeft, shortRight⟩
  · rintro ⟨⟨left, right⟩, shortLeft, shortRight⟩
    exact ⟨⟨left, shortLeft⟩, right, shortRight⟩

/-- The container ends the common part before the ends of the paths.  It is cut off the common part of the whole paths,
which is too long by one where it reaches an end. -/
theorem lowestCommonContainer_eq_getLast? (s t : List String) :
    lowestCommonContainer s t = (commonAround s t).getLast? := by
  obtain ⟨left, right, -⟩ := commonPrefix_longest s t
  have within := left.length_le
  have within' := right.length_le
  rw [lowestCommonContainer]
  congr 1
  apply eq_of_prefix_iff
  intro q
  rw [prefix_commonAround_iff, List.prefix_take_iff]
  apply and_congr_right
  intro begins
  have shorter := begins.length_le
  split
  · omega
  · omega

theorem lowestCommonContainer_comm (s t : List String) : lowestCommonContainer s t = lowestCommonContainer t s := by
  rw [lowestCommonContainer_eq_getLast?, lowestCommonContainer_eq_getLast?, commonAround, commonAround, commonPrefix_comm]

/-! ### Containers of nodes -/

section Nodes

variable {α : Type} {g : LayoutGraph α} {as bs vs : List (Tree (LayoutNode α))} {a b v : Tree (LayoutNode α)}

/-- The node is inside another one, and not this one itself. -/
def ProperlyInside (a v : Tree (LayoutNode α)) : Prop := a ∈ Tree.preorderForest v.children

/-- Of the nodes that have both nodes properly inside, the one with this id is the innermost: it is in all the others.
Without an id there is no such node, only the root is around both. -/
def InnermostAround (g : LayoutGraph α) (a b : Tree (LayoutNode α)) : Option String → Prop
  | none => ∀ v ∈ Tree.preorderForest g.children, ¬ (ProperlyInside a v ∧ ProperlyInside b v)
  | some id => ∃ u ∈ Tree.preorderForest g.children, u.value.id = id ∧ (ProperlyInside a u ∧ ProperlyInside b u) ∧
      ∀ v ∈ Tree.preorderForest g.children, ProperlyInside a v ∧ ProperlyInside b v → u ∈ Tree.preorder v

/-- A list begins with another one and goes on after it. -/
theorem prefix_dropLast_iff {β : Type} {xs ys : List β} (notEmpty : ys ≠ []) :
    xs <+: ys.dropLast ↔ ∃ rest, rest ≠ [] ∧ ys = xs ++ rest := by
  constructor
  · rintro ⟨rest, split⟩
    refine ⟨rest ++ [ys.getLast notEmpty], by simp, ?_⟩
    rw [← List.append_assoc, split, List.dropLast_append_getLast notEmpty]
  · rintro ⟨rest, more, rfl⟩
    rw [List.dropLast_append_of_ne_nil more]
    exact List.prefix_append _ _

variable (distinct : DistinctIds g.children)
include distinct

/-- Branches begin with one another where their ids do. -/
theorem DistinctIds.idsAlong_isPrefix_iff (vsMem : ∀ x ∈ vs, x ∈ Tree.preorderForest g.children)
    (asMem : ∀ x ∈ as, x ∈ Tree.preorderForest g.children) : idsAlong vs <+: idsAlong as ↔ vs <+: as := by
  constructor
  · rintro ⟨onward, split⟩
    obtain ⟨first, rest, rfl, firstIds, -⟩ := List.map_eq_append_iff.mp split.symm
    have same := distinct.eq_of_idsAlong_eq (fun x mem => asMem x (List.mem_append_left _ mem)) vsMem firstIds
    rw [same]
    exact List.prefix_append _ _
  · rintro ⟨rest, rfl⟩
    rw [idsAlong, idsAlong, List.map_append]
    exact List.prefix_append _ _

/-- A node is properly inside another one if its path goes on after that of the other. -/
theorem DistinctIds.properlyInside_iff (left : Tree.Branch g.children as a) (outer : Tree.Branch g.children vs v) :
    ProperlyInside a v ↔ idsAlong vs <+: (idsAlong as).dropLast := by
  have shorter : (idsAlong as).dropLast = idsAlong as.dropLast := by
    rw [idsAlong, idsAlong, List.map_dropLast]
  have inForest : ∀ x ∈ as.dropLast, x ∈ Tree.preorderForest g.children :=
    fun x mem => left.mem_of_mem (List.dropLast_subset as mem)
  rw [shorter, distinct.idsAlong_isPrefix_iff (fun x => outer.mem_of_mem) inForest, prefix_dropLast_iff left.ne_nil]
  constructor
  · intro inside
    obtain ⟨rest, onward⟩ := Tree.mem_preorderForest_iff.mp inside
    exact ⟨rest, onward.ne_nil, distinct.branch_unique left (outer.append onward)⟩
  · rintro ⟨rest, more, rfl⟩
    exact (outer.remainder left more).mem_preorderForest

theorem DistinctIds.bothInside_iff (left : Tree.Branch g.children as a) (right : Tree.Branch g.children bs b)
    (outer : Tree.Branch g.children vs v) :
    ProperlyInside a v ∧ ProperlyInside b v ↔ idsAlong vs <+: commonAround (idsAlong as) (idsAlong bs) := by
  rw [distinct.properlyInside_iff left outer, distinct.properlyInside_iff right outer, commonAround,
    prefix_commonPrefix_iff]

omit distinct in
/-- The common part of two paths before their ends leads to a node, unless it is empty. -/
theorem exists_branch_of_commonAround (left : Tree.Branch g.children as a) {common : List String}
    (begins : common <+: (idsAlong as).dropLast) (notEmpty : common ≠ []) :
    ∃ us u, Tree.Branch g.children us u ∧ idsAlong us = common := by
  have pathNotEmpty : idsAlong as ≠ [] := by simpa [idsAlong] using left.ne_nil
  obtain ⟨onward, more, split⟩ := (prefix_dropLast_iff pathNotEmpty).mp begins
  obtain ⟨us, rest, rfl, sameIds, restIds⟩ := List.map_eq_append_iff.mp split
  cases rest with
  | nil => exact absurd restIds.symm more
  | cons x rest =>
      have us_ne : us ≠ [] := by
        rintro rfl
        exact notEmpty sameIds.symm
      obtain ⟨u, before, -⟩ := left.beginning us_ne
      exact ⟨us, u, before, sameIds⟩

/-- The container of two nodes is the innermost one around both. -/
theorem DistinctIds.innermostAround (left : Tree.Branch g.children as a) (right : Tree.Branch g.children bs b) :
    InnermostAround g a b (lowestCommonContainer (idsAlong as) (idsAlong bs)) := by
  rw [lowestCommonContainer_eq_getLast?]
  generalize isCommon : commonAround (idsAlong as) (idsAlong bs) = common
  rcases eq_or_ne common [] with rfl | notEmpty
  · intro v inForest both
    obtain ⟨vs, outer⟩ := Tree.mem_preorderForest_iff.mp inForest
    have begins := (distinct.bothInside_iff left right outer).mp both
    rw [isCommon, List.prefix_nil] at begins
    exact outer.ne_nil (by simpa [idsAlong] using begins)
  · have begins : common <+: (idsAlong as).dropLast := by
      rw [← isCommon]
      exact (commonPrefix_longest _ _).left
    obtain ⟨us, u, inner, sameIds⟩ := exists_branch_of_commonAround left begins notEmpty
    have hasId : common.getLast? = some u.value.id := by rw [← sameIds, idsAlong_getLast? inner]
    rw [hasId]
    refine ⟨u, inner.mem_preorderForest, rfl, ?_, ?_⟩
    · apply (distinct.bothInside_iff left right inner).mpr
      simp [isCommon, sameIds]
    · intro v inForest both
      obtain ⟨vs, outer⟩ := Tree.mem_preorderForest_iff.mp inForest
      have onward := (distinct.bothInside_iff left right outer).mp both
      rw [isCommon, ← sameIds, distinct.idsAlong_isPrefix_iff (fun x => outer.mem_of_mem) fun x => inner.mem_of_mem]
        at onward
      exact (distinct.isPrefix_iff outer inner).mp onward

end Nodes

/-- The container of two paths ends the longest common beginning of the paths without their ends, and there is none if
nothing is common.  It does not depend on the order of the paths.  In a request without repeated ids, every node has a
path, and the container of the paths of two nodes is the innermost node that has both properly inside. -/
theorem lowestCommonContainer_spec :
    (∀ s t : List String, lowestCommonContainer s t = lowestCommonContainer t s ∧
      ∃ common, LongestCommonPrefix s.dropLast t.dropLast common ∧ lowestCommonContainer s t = common.getLast? ∧
        (lowestCommonContainer s t = none ↔ common = [])) ∧
    ∀ (α : Type) (g : LayoutGraph α), DistinctIds g.children →
      ∀ a ∈ Tree.preorderForest g.children, ∀ b ∈ Tree.preorderForest g.children,
        ∃ s t, lastValue? a.value.id g.hierarchy.paths = some s ∧ lastValue? b.value.id g.hierarchy.paths = some t ∧
          InnermostAround g a b (lowestCommonContainer s t) := by
  constructor
  · intro s t
    refine ⟨lowestCommonContainer_comm s t, commonAround s t, commonPrefix_longest _ _,
      lowestCommonContainer_eq_getLast? s t, ?_⟩
    rw [lowestCommonContainer_eq_getLast?, List.getLast?_eq_none_iff]
  · intro α g distinct a aMem b bMem
    obtain ⟨as, left⟩ := Tree.mem_preorderForest_iff.mp aMem
    obtain ⟨bs, right⟩ := Tree.mem_preorderForest_iff.mp bMem
    exact ⟨idsAlong as, idsAlong bs, Hierarchy.lastValue?_paths distinct left, Hierarchy.lastValue?_paths distinct right,
      distinct.innermostAround left right⟩

/-- The two leaves have the frame in common.  Around the frame itself and a leaf in it there is only the root. -/
theorem crossing_innermost : DistinctIds crossing.children ∧
    lowestCommonContainer ["F", "A"] ["F", "B"] = some "F" ∧
    InnermostAround crossing (leafWithPorts "A" ["A_p"]) (leafWithPorts "B" []) (some "F") ∧
    lowestCommonContainer ["F"] ["F", "B"] = none ∧
    InnermostAround crossing frameOfTwo (leafWithPorts "B" []) none := by
  have distinct : DistinctIds crossing.children := by decide
  have frame : Tree.Branch crossing.children [frameOfTwo] frameOfTwo := .top List.mem_cons_self
  have left : Tree.Branch frameOfTwo.children _ (leafWithPorts "A" ["A_p"]) := .top List.mem_cons_self
  have right : Tree.Branch frameOfTwo.children _ (leafWithPorts "B" []) :=
    .top (List.mem_cons_of_mem _ List.mem_cons_self)
  have aPath : lastValue? "A" crossing.hierarchy.paths = some ["F", "A"] := by decide
  have bPath : lastValue? "B" crossing.hierarchy.paths = some ["F", "B"] := by decide
  have fPath : lastValue? "F" crossing.hierarchy.paths = some ["F"] := by decide
  obtain ⟨-, containers⟩ := lowestCommonContainer_spec
  have nodes := containers Float32 crossing distinct
  obtain ⟨s, t, sPath, tPath, leaves⟩ :=
    nodes _ (frame.append left).mem_preorderForest _ (frame.append right).mem_preorderForest
  obtain ⟨s', t', sPath', tPath', nested⟩ :=
    nodes _ frame.mem_preorderForest _ (frame.append right).mem_preorderForest
  obtain rfl := Option.some.inj (aPath.symm.trans sPath)
  obtain rfl := Option.some.inj (bPath.symm.trans tPath)
  obtain rfl := Option.some.inj (fPath.symm.trans sPath')
  obtain rfl := Option.some.inj (bPath.symm.trans tPath')
  exact ⟨distinct, by decide, leaves, by decide, nested⟩

end BoxDiagram
