/-
Module: BoxDiagram.Proofs.CommonContainer
Purpose: An edge has an influence on the layers of just one container, and this is the one its route is relative to.
  The layers are found with the children that the ends are in, and the route with the longest common path; both are the
  place where the branches of the two ends part.
Main exports: Container, childOf?_eq_some_iff, lowestCommonContainer_of_partAfter, ranked_iff_partAfter,
  ranked_where_routed, crossing_ranked
-/
import BoxDiagram.Proofs.Branches
import BoxDiagram.Proofs.RoutedEdges
import Mathlib.Data.Rat.Defs

namespace BoxDiagram

variable {α κ : Type}

/-! ### Containers -/

/-- The root of a layout request, or a node with others inside it. -/
structure Container (g : LayoutGraph α) where
  /-- The nodes from the outermost one down to the container itself; none for the root. -/
  around : List (Tree (LayoutNode α))
  children : List (Tree (LayoutNode α))
  isContainer : (around = [] ∧ children = g.children) ∨
    ∃ u, Tree.Branch g.children around u ∧ u.isCompound = true ∧ children = u.children

namespace Container

variable {g : LayoutGraph α} (c : Container g) {rest : List (Tree (LayoutNode α))} {t : Tree (LayoutNode α)}

/-- The ids from the outermost node down to the container. -/
def path : List String := idsAlong c.around

/-- The ids of the children. -/
def ids : List String := c.children.map fun t => t.value.id

/-- The id of the container; the root has none. -/
def id? : Option String := c.path.getLast?

/-- A container is told by the nodes around it. -/
theorem eq_of_around_eq {c c' : Container g} (same : c.around = c'.around) : c = c' := by
  obtain ⟨around, children, isContainer⟩ := c
  obtain ⟨around', children', isContainer'⟩ := c'
  dsimp only at same
  subst same
  have sameChildren : children = children' := by
    rcases isContainer with ⟨isRoot, rfl⟩ | ⟨u, branch, -, rfl⟩
    · rcases isContainer' with ⟨-, rfl⟩ | ⟨u', branch', -⟩
      · rfl
      · exact absurd isRoot branch'.ne_nil
    · rcases isContainer' with ⟨isRoot, -⟩ | ⟨u', branch', -, rfl⟩
      · exact absurd isRoot branch.ne_nil
      · have ends := branch.getLast?_eq
        rw [branch'.getLast?_eq] at ends
        rw [Option.some.inj ends]
  subst sameChildren
  rfl

/-- Behind a container, a branch goes on as a branch of its children. -/
theorem branch_iff (more : rest ≠ []) : Tree.Branch g.children (c.around ++ rest) t ↔ Tree.Branch c.children rest t := by
  rcases c.isContainer with ⟨isRoot, top⟩ | ⟨u, branch, -, inside⟩
  · rw [isRoot, top, List.nil_append]
  · rw [inside]
    exact ⟨fun long => branch.remainder long more, branch.append⟩

theorem around_mem {x : Tree (LayoutNode α)} (mem : x ∈ c.around) : x ∈ Tree.preorderForest g.children := by
  rcases c.isContainer with ⟨isRoot, -⟩ | ⟨u, branch, -⟩
  · rw [isRoot] at mem
    exact absurd mem List.not_mem_nil
  · exact branch.mem_of_mem mem

/-- The nodes inside a container are nodes of the request, in the same order. -/
theorem preorderForest_sublist : (Tree.preorderForest c.children).Sublist (Tree.preorderForest g.children) := by
  rcases c.isContainer with ⟨-, top⟩ | ⟨u, branch, -, inside⟩
  · rw [top]
  · rw [inside]
    exact branch.preorderForest_sublist

theorem children_sublist : c.children.Sublist (Tree.preorderForest g.children) :=
  (Tree.sublist_preorderForest c.children).trans c.preorderForest_sublist

theorem children_mem {x : Tree (LayoutNode α)} (mem : x ∈ c.children) : x ∈ Tree.preorderForest g.children :=
  c.children_sublist.subset mem

theorem ids_nodup (distinct : DistinctIds g.children) : c.ids.Nodup :=
  (c.children_sublist.map _).nodup distinct

/-- Where a branch goes on, there is a container. -/
theorem exists_of_branch {around : List (Tree (LayoutNode α))} {x : Tree (LayoutNode α)}
    (branch : Tree.Branch g.children (around ++ x :: rest) t) : ∃ c : Container g, c.around = around := by
  rcases eq_or_ne around [] with rfl | notEmpty
  · exact ⟨⟨[], g.children, .inl ⟨rfl, rfl⟩⟩, rfl⟩
  · obtain ⟨u, before, isChild⟩ := branch.beginning notEmpty
    have compound : u.isCompound = true := Tree.isCompound_iff.mpr (List.ne_nil_of_mem isChild)
    exact ⟨⟨around, u.children, .inr ⟨u, before, compound, rfl⟩⟩, rfl⟩

end Container

/-! ### Ends of edges -/

section Ends

variable {g : LayoutGraph α} (distinct : DistinctIds g.children) (c : Container g)
  {branch rest : List (Tree (LayoutNode α))} {u x : Tree (LayoutNode α)} {endpoint : String} {i : Nat}

theorem Container.idsAlong_onward :
    idsAlong (c.around ++ x :: rest) = c.path ++ x.value.id :: idsAlong rest := by
  rw [Container.path, idsAlong, idsAlong, idsAlong, List.map_append, List.map_cons]

include distinct

/-- The number of a child is found under its id. -/
theorem Container.lastValue?_ids_iff (mem : x ∈ Tree.preorderForest g.children) :
    lastValue? x.value.id c.ids.zipIdx = some i ↔ c.children[i]? = some x := by
  constructor
  · intro found
    have entry := List.mem_zipIdx_iff_getElem?.mp (mem_of_lastValue?_eq_some found)
    rw [Container.ids, List.getElem?_map, Option.map_eq_some_iff] at entry
    obtain ⟨y, isChild, sameId⟩ := entry
    rw [isChild, distinct.eq_of_id_eq (c.children_mem (List.mem_of_getElem? isChild)) mem sameId]
  · intro isChild
    refine lastValue?_eq_some_of_nodup ?_ (List.mem_zipIdx_iff_getElem?.mpr ?_)
    · rw [List.zipIdx_map_fst]
      exact c.ids_nodup distinct
    · rw [Container.ids, List.getElem?_map, isChild, Option.map_some]

/-- A branch whose ids begin with those of a container goes through the container. -/
theorem Container.exists_onward (isBranch : Tree.Branch g.children branch u) (begins : c.path <+: idsAlong branch) :
    ∃ onward, branch = c.around ++ onward := by
  obtain ⟨onwardIds, split⟩ := begins
  obtain ⟨first, onward, rfl, firstIds, -⟩ := List.map_eq_append_iff.mp split.symm
  have inForest : ∀ x ∈ first, x ∈ Tree.preorderForest g.children :=
    fun x mem => isBranch.mem_of_mem (List.mem_append_left _ mem)
  have sameFirst := distinct.eq_of_idsAlong_eq inForest (fun x => c.around_mem) firstIds
  exact ⟨onward, by rw [sameFirst]⟩

variable [Scalar α] [NumberText α] (layering : Layering κ)

/-- An end is in the child of a container that comes next on its branch. -/
theorem childOf?_eq_some_iff (isBranch : Tree.Branch g.children branch u)
    (hasPath : g.hierarchy.pathOf? endpoint = some (idsAlong branch)) :
    (g.placement layering).childOf? c.path c.ids endpoint = some i ↔
      ∃ x rest, c.children[i]? = some x ∧ branch = c.around ++ x :: rest := by
  have lookup : (g.placement layering).childOf? c.path c.ids endpoint =
      if c.path.isPrefixOf (idsAlong branch) then
        (idsAlong branch)[c.path.length]?.bind fun id => lastValue? id c.ids.zipIdx
      else none := by
    rw [Placement.childOf?]
    change (g.hierarchy.pathOf? endpoint).bind _ = _
    rw [hasPath]
    rfl
  rw [lookup]
  constructor
  · intro found
    split at found
    · rename_i begins
      obtain ⟨onward, rfl⟩ := c.exists_onward distinct isBranch (List.isPrefixOf_iff_prefix.mp begins)
      cases onward with
      | nil =>
          rw [List.append_nil, Container.path, List.getElem?_eq_none (Nat.le_refl _)] at found
          cases found
      | cons x rest =>
          have inForest : x ∈ Tree.preorderForest g.children :=
            isBranch.mem_of_mem (List.mem_append_right _ List.mem_cons_self)
          rw [c.idsAlong_onward, List.getElem?_append_right (Nat.le_refl _), Nat.sub_self, List.getElem?_cons_zero,
            Option.bind_some, c.lastValue?_ids_iff distinct inForest] at found
          exact ⟨x, rest, found, rfl⟩
    · cases found
  · rintro ⟨x, rest, isChild, rfl⟩
    have inForest := c.children_mem (List.mem_of_getElem? isChild)
    rw [c.idsAlong_onward, if_pos (List.isPrefixOf_iff_prefix.mpr (List.prefix_append _ _)),
      List.getElem?_append_right (Nat.le_refl _), Nat.sub_self, List.getElem?_cons_zero, Option.bind_some,
      c.lastValue?_ids_iff distinct inForest]
    exact isChild

omit [Scalar α] [NumberText α] in
/-- The child that comes next on the branch to a node is the one that the node is in. -/
theorem Container.exists_onward_iff (isBranch : Tree.Branch g.children branch u) (isChild : x ∈ c.children) :
    (∃ rest, branch = c.around ++ x :: rest) ↔ u ∈ Tree.preorder x := by
  constructor
  · rintro ⟨rest, rfl⟩
    exact ((c.branch_iff (List.cons_ne_nil x rest)).mp isBranch).head.2
  · intro inside
    obtain ⟨rest, onward⟩ := Tree.Branch.of_mem_preorder isChild inside
    have whole := (c.branch_iff (List.cons_ne_nil x rest)).mpr onward
    exact ⟨rest, distinct.branch_unique isBranch whole⟩

end Ends

/-! ### The common container -/

/-- The container of a route is the place where the paths of its ends part. -/
theorem lowestCommonContainer_of_partAfter {common source target : List String}
    (part : PartAfter common source target) : lowestCommonContainer source target = common.getLast? := by
  obtain ⟨a, b, source, target, rfl, rfl, differ⟩ := part
  have longest : commonPrefix (common ++ a :: source) (common ++ b :: target) = common := by
    induction common with
    | nil => rw [List.nil_append, List.nil_append, commonPrefix, if_neg differ]
    | cons x common ih => rw [List.cons_append, List.cons_append, commonPrefix, if_pos rfl, ih]
  have shorter : ∀ (x : String) (rest : List String), common.length ≠ (common ++ x :: rest).length := by
    intro x rest
    rw [List.length_append, List.length_cons]
    omega
  rw [lowestCommonContainer, longest, if_neg (not_or.mpr ⟨shorter _ _, shorter _ _⟩), List.take_length]

/-- An end of an edge is in the child of a container that has this number. -/
def InChild {g : LayoutGraph α} (c : Container g) (i : Nat) (u : Tree (LayoutNode α)) : Prop :=
  ∃ x, c.children[i]? = some x ∧ u ∈ Tree.preorder x

section Common

variable {g : LayoutGraph α}

/-- An edge is ranked in a container: its ends are in different children, which have these numbers. -/
def RankedIn (p : Placement α κ) (c : Container g) (e : LayoutEdge) (i j : Nat) : Prop :=
  i ≠ j ∧ ∃ s t, e.sources.head? = some s ∧ e.targets.head? = some t ∧
    p.childOf? c.path c.ids s = some i ∧ p.childOf? c.path c.ids t = some j

/-- Dropping repetitions leaves none.  The elements that are kept after the first one are filtered before, so the induction
is on the length. -/
theorem nodup_eraseDups {β : Type} [BEq β] [LawfulBEq β] (xs : List β) : xs.eraseDups.Nodup := by
  induction length : xs.length using Nat.strongRecOn generalizing xs with
  | ind n ih =>
      cases xs with
      | nil => simp
      | cons x xs =>
          rw [List.eraseDups_cons, List.nodup_cons, List.mem_eraseDups]
          refine ⟨by simp, ih _ ?_ _ rfl⟩
          rw [← length, List.length_cons]
          exact Nat.lt_succ_of_le (List.length_filter_le _ _)

/-- An end that is in a child of some container has a path. -/
theorem exists_path_of_childOf? {p : Placement α κ} {path ids : List String} {endpoint : String} {i : Nat}
    (inChild : p.childOf? path ids endpoint = some i) : ∃ whole, p.hierarchy.pathOf? endpoint = some whole := by
  rw [Placement.childOf?] at inChild
  obtain ⟨whole, hasPath, -⟩ := Option.bind_eq_some_iff.mp inChild
  exact ⟨whole, hasPath⟩

/-- The numbers of the children of the container at `path` that an edge joins, if these are different children. -/
def Placement.projectEdge? (p : Placement α κ) (path ids : List String) (e : LayoutEdge) : Option (Nat × Nat) := do
  let source ← p.childOf? path ids (← e.sources.head?)
  let target ← p.childOf? path ids (← e.targets.head?)
  if source = target then none else some (source, target)

theorem Placement.projectEdges_eq (p : Placement α κ) (path ids : List String) :
    p.projectEdges path ids = (p.edges.filterMap (p.projectEdge? path ids)).eraseDups := rfl

theorem projectEdge?_eq_some_iff {p : Placement α κ} {c : Container g} {e : LayoutEdge} {i j : Nat} :
    p.projectEdge? c.path c.ids e = some (i, j) ↔ RankedIn p c e i j := by
  simp only [Placement.projectEdge?, RankedIn, Option.bind_eq_bind, Option.bind_eq_some_iff,
    Option.ite_none_left_eq_some, Option.some.injEq, Prod.mk.injEq]
  constructor
  · rintro ⟨s, source, i, inChild, t, target, j, inChild', differ, rfl, rfl⟩
    exact ⟨differ, s, t, source, target, inChild, inChild'⟩
  · rintro ⟨differ, s, t, source, target, inChild, inChild'⟩
    exact ⟨s, source, i, inChild, t, target, j, inChild', differ, rfl, rfl⟩

/-- The pairs of a container come from the edges that are ranked in it. -/
theorem mem_projectEdges_iff {p : Placement α κ} {c : Container g} {i j : Nat} :
    (i, j) ∈ p.projectEdges c.path c.ids ↔ ∃ e ∈ p.edges, RankedIn p c e i j := by
  rw [Placement.projectEdges_eq, List.mem_eraseDups, List.mem_filterMap]
  exact exists_congr fun e => and_congr_right fun _ => projectEdge?_eq_some_iff

variable (distinct : DistinctIds g.children) {e : LayoutEdge} {s t : String} {as bs : List (Tree (LayoutNode α))}
  {a b : Tree (LayoutNode α)}
include distinct

/-- The ids of two branches part where the branches do. -/
theorem partAfter_idsAlong {c : Container g} (left : Tree.Branch g.children as a) (right : Tree.Branch g.children bs b)
    (part : PartAfter c.around as bs) : PartAfter c.path (idsAlong as) (idsAlong bs) := by
  obtain ⟨x, y, as', bs', rfl, rfl, differ⟩ := part
  refine ⟨x.value.id, y.value.id, idsAlong as', idsAlong bs', c.idsAlong_onward, c.idsAlong_onward, fun same => ?_⟩
  have xMem := left.mem_of_mem (List.mem_append_right _ List.mem_cons_self)
  have yMem := right.mem_of_mem (List.mem_append_right _ List.mem_cons_self)
  exact differ (distinct.eq_of_id_eq xMem yMem same)

variable [Scalar α] [NumberText α] (layering : Layering κ)

/-- An edge is ranked where the branches of its ends part. -/
theorem ranked_iff_partAfter (c : Container g) (source : e.sources.head? = some s) (target : e.targets.head? = some t)
    (left : Tree.Branch g.children as a) (right : Tree.Branch g.children bs b)
    (sPath : g.hierarchy.pathOf? s = some (idsAlong as)) (tPath : g.hierarchy.pathOf? t = some (idsAlong bs)) :
    (∃ i j, RankedIn (g.placement layering) c e i j) ↔ PartAfter c.around as bs := by
  constructor
  · rintro ⟨i, j, differ, s', t', source', target', inChild, inChild'⟩
    obtain rfl := Option.some.inj (source.symm.trans source')
    obtain rfl := Option.some.inj (target.symm.trans target')
    obtain ⟨x, as', isChild, rfl⟩ := (childOf?_eq_some_iff distinct c layering left sPath).mp inChild
    obtain ⟨y, bs', isChild', rfl⟩ := (childOf?_eq_some_iff distinct c layering right tPath).mp inChild'
    refine ⟨x, y, as', bs', rfl, rfl, ?_⟩
    rintro rfl
    have bound := (List.getElem?_eq_some_iff.mp isChild).1
    have nodup : c.children.Nodup := List.Nodup.of_map _ (c.ids_nodup distinct)
    exact differ ((List.getElem?_inj bound nodup).mp (isChild.trans isChild'.symm))
  · rintro ⟨x, y, as', bs', rfl, rfl, differ⟩
    obtain ⟨i, isChild⟩ := List.getElem?_of_mem ((c.branch_iff (List.cons_ne_nil x as')).mp left).head.1
    obtain ⟨j, isChild'⟩ := List.getElem?_of_mem ((c.branch_iff (List.cons_ne_nil y bs')).mp right).head.1
    refine ⟨i, j, ?_, s, t, source, target, ?_, ?_⟩
    · rintro rfl
      exact differ (Option.some.inj (isChild.symm.trans isChild'))
    · exact (childOf?_eq_some_iff distinct c layering left sPath).mpr ⟨x, as', isChild, rfl⟩
    · exact (childOf?_eq_some_iff distinct c layering right tPath).mpr ⟨y, bs', isChild', rfl⟩

/-- An end with an owner is in the child of a container that its owner is in. -/
theorem childOf?_iff_inChild (c : Container g) {i : Nat} :
    (g.placement layering).childOf? c.path c.ids s = some i ↔ ∃ a, Owner g s a ∧ InChild c i a := by
  constructor
  · intro inChild
    obtain ⟨path, hasPath⟩ := exists_path_of_childOf? inChild
    obtain ⟨a, branch, isBranch, hasPath⟩ := exists_owner hasPath
    obtain ⟨x, rest, isChild, split⟩ := (childOf?_eq_some_iff distinct c layering isBranch hasPath).mp inChild
    have inside := (c.exists_onward_iff distinct isBranch (List.mem_of_getElem? isChild)).mp ⟨rest, split⟩
    exact ⟨a, ⟨branch, isBranch, hasPath⟩, x, isChild, inside⟩
  · rintro ⟨a, ⟨branch, isBranch, hasPath⟩, x, isChild, inside⟩
    obtain ⟨rest, split⟩ := (c.exists_onward_iff distinct isBranch (List.mem_of_getElem? isChild)).mpr inside
    exact (childOf?_eq_some_iff distinct c layering isBranch hasPath).mpr ⟨x, rest, isChild, split⟩

/-- An edge is ranked in at most one container. -/
theorem ranked_unique {c c' : Container g} (ranked : ∃ i j, RankedIn (g.placement layering) c e i j)
    (ranked' : ∃ i j, RankedIn (g.placement layering) c' e i j) : c = c' := by
  have ends := ranked
  obtain ⟨i, j, -, s, t, source, target, inChild, inChild'⟩ := ends
  obtain ⟨sPath, sFound⟩ := exists_path_of_childOf? inChild
  obtain ⟨tPath, tFound⟩ := exists_path_of_childOf? inChild'
  obtain ⟨as, a, left, rfl⟩ := exists_branch_of_pathOf? sFound
  obtain ⟨bs, b, right, rfl⟩ := exists_branch_of_pathOf? tFound
  rw [ranked_iff_partAfter distinct layering _ source target left right sFound tFound] at ranked ranked'
  exact Container.eq_of_around_eq (ranked.unique ranked')

/-- An edge between nodes of which neither is in the other is ranked in one container, and this one is the container of
its route. -/
theorem ranked_once (source : e.sources.head? = some s) (target : e.targets.head? = some t)
    (left : Tree.Branch g.children as a) (right : Tree.Branch g.children bs b)
    (sPath : g.hierarchy.pathOf? s = some (idsAlong as)) (tPath : g.hierarchy.pathOf? t = some (idsAlong bs))
    (apart : a ∉ Tree.preorder b) (apart' : b ∉ Tree.preorder a) :
    ∃ c : Container g, c.id? = lowestCommonContainer (idsAlong as) (idsAlong bs) ∧
      ∀ c' : Container g, (∃ i j, RankedIn (g.placement layering) c' e i j) ↔ c' = c := by
  rw [← distinct.isPrefix_iff right left] at apart
  rw [← distinct.isPrefix_iff left right] at apart'
  obtain ⟨common, part⟩ := exists_partAfter apart' apart
  have onward : ∃ x rest, as = common ++ x :: rest := by
    obtain ⟨x, _, rest, _, split, _⟩ := part
    exact ⟨x, rest, split⟩
  obtain ⟨x, rest, split⟩ := onward
  obtain ⟨c, rfl⟩ := Container.exists_of_branch (split ▸ left)
  refine ⟨c, (lowestCommonContainer_of_partAfter (partAfter_idsAlong distinct left right part)).symm, fun c' => ?_⟩
  rw [ranked_iff_partAfter distinct layering c' source target left right sPath tPath]
  constructor
  · intro part'
    exact Container.eq_of_around_eq (part'.unique part)
  · rintro rfl
    exact part

/-- An edge between a node and one inside it, or from a node to itself, is ranked nowhere. -/
theorem not_ranked (c : Container g) (source : e.sources.head? = some s) (target : e.targets.head? = some t)
    (left : Tree.Branch g.children as a) (right : Tree.Branch g.children bs b)
    (sPath : g.hierarchy.pathOf? s = some (idsAlong as)) (tPath : g.hierarchy.pathOf? t = some (idsAlong bs))
    (inside : a ∈ Tree.preorder b ∨ b ∈ Tree.preorder a) :
    ¬ ∃ i j, RankedIn (g.placement layering) c e i j := by
  rw [ranked_iff_partAfter distinct layering c source target left right sPath tPath]
  intro part
  rcases inside with inTarget | inSource
  · exact part.symm.not_isPrefix ((distinct.isPrefix_iff right left).mpr inTarget)
  · exact part.not_isPrefix ((distinct.isPrefix_iff left right).mpr inSource)

/-- The pairs of a container are the pairs of different children between which there is an edge. -/
theorem projectEdges_spec (c : Container g) (i j : Nat) :
    (i, j) ∈ (g.placement layering).projectEdges c.path c.ids ↔
      i ≠ j ∧ ∃ e ∈ g.edges, ∃ s t a b, e.sources.head? = some s ∧ e.targets.head? = some t ∧
        Owner g s a ∧ Owner g t b ∧ InChild c i a ∧ InChild c j b := by
  rw [mem_projectEdges_iff]
  constructor
  · rintro ⟨e, isEdge, differ, s, t, source, target, inChild, inChild'⟩
    obtain ⟨a, owner, inside⟩ := (childOf?_iff_inChild distinct layering c).mp inChild
    obtain ⟨b, owner', inside'⟩ := (childOf?_iff_inChild distinct layering c).mp inChild'
    exact ⟨differ, e, isEdge, s, t, a, b, source, target, owner, owner', inside, inside'⟩
  · rintro ⟨differ, e, isEdge, s, t, a, b, source, target, owner, owner', inside, inside'⟩
    have inChild := (childOf?_iff_inChild distinct layering c).mpr ⟨a, owner, inside⟩
    have inChild' := (childOf?_iff_inChild distinct layering c).mpr ⟨b, owner', inside'⟩
    exact ⟨e, isEdge, differ, s, t, source, target, inChild, inChild'⟩

end Common

/-! ### Main result -/

section Main

variable [Scalar α] {g : LayoutGraph α}

/-- A route is relative to the common container of the paths of its ends. -/
theorem routeEdge_container {h : Hierarchy} {l : Landmarks α} {placed : PositionedGraph α} {horizontal : Bool}
    {e : LayoutEdge} {r : PositionedEdge α} {s t : String} {sPath tPath : List String}
    (routed : routeEdge h l placed horizontal e = .ok r) (source : e.sources.head? = some s)
    (target : e.targets.head? = some t) (sFound : h.pathOf? s = some sPath) (tFound : h.pathOf? t = some tPath) :
    r.container = some ((lowestCommonContainer sPath tPath).getD rootId) := by
  obtain ⟨s', t', start, stop, source', target', isStart, isStop, between⟩ := routeEdge_eq_ok routed
  obtain rfl := Option.some.inj (source.symm.trans source')
  obtain rfl := Option.some.inj (target.symm.trans target')
  obtain ⟨-, hasStart, -⟩ := routeEnd?_eq_some isStart
  obtain ⟨-, hasStop, -⟩ := routeEnd?_eq_some isStop
  rw [between.container, Option.some.inj (hasStart.symm.trans sFound), Option.some.inj (hasStop.symm.trans tFound)]

variable [NumberText α]

/-- The edge is ranked in one container, and its route is relative to this one. -/
def RankedWhereRouted (p : Placement α κ) (e : LayoutEdge) (sPath tPath : List String) (c : Container g) : Prop :=
  (∀ c' : Container g, (∃ i j, RankedIn p c' e i j) ↔ c' = c) ∧ c.id? = lowestCommonContainer sPath tPath ∧
    ∀ (l : Landmarks α) (placed : PositionedGraph α) (horizontal : Bool) (r : PositionedEdge α),
      routeEdge g.hierarchy l placed horizontal e = .ok r → r.container = some (c.id?.getD rootId)

/-- An edge has an influence on the layers of just the container that its route is relative to.  If neither of the nodes
that the edge joins is in the other, this is the one container in which its ends are in different children; otherwise
there is none.  For every container, the edges are projected to the pairs of different children that some edge joins,
each pair once. -/
theorem ranked_where_routed (distinct : DistinctIds g.children) (layering : Layering κ) :
    (∀ (e : LayoutEdge) (s t : String) (sPath tPath : List String), e.sources.head? = some s →
      e.targets.head? = some t → g.hierarchy.pathOf? s = some sPath → g.hierarchy.pathOf? t = some tPath →
        (∃ a, Owner g s a) ∧ (∃ b, Owner g t b) ∧ ∀ a b, Owner g s a → Owner g t b →
          (a ∉ Tree.preorder b → b ∉ Tree.preorder a →
            ∃ c : Container g, RankedWhereRouted (g.placement layering) e sPath tPath c) ∧
          (a ∈ Tree.preorder b ∨ b ∈ Tree.preorder a →
            ∀ c : Container g, ¬ ∃ i j, RankedIn (g.placement layering) c e i j)) ∧
    ∀ c : Container g, ((g.placement layering).projectEdges c.path c.ids).Nodup ∧
      ∀ i j, ((i, j) ∈ (g.placement layering).projectEdges c.path c.ids →
          i ≠ j ∧ i < c.children.length ∧ j < c.children.length) ∧
        ((i, j) ∈ (g.placement layering).projectEdges c.path c.ids ↔
          i ≠ j ∧ ∃ e ∈ g.edges, ∃ s t a b, e.sources.head? = some s ∧ e.targets.head? = some t ∧
            Owner g s a ∧ Owner g t b ∧ InChild c i a ∧ InChild c j b) := by
  constructor
  · intro e s t sPath tPath source target sFound tFound
    refine ⟨exists_owner sFound, exists_owner tFound, ?_⟩
    rintro a b ⟨as, left, sPath'⟩ ⟨bs, right, tPath'⟩
    obtain rfl := Option.some.inj (sPath'.symm.trans sFound)
    obtain rfl := Option.some.inj (tPath'.symm.trans tFound)
    constructor
    · intro apart apart'
      obtain ⟨c, isCommon, alone⟩ := ranked_once distinct layering source target left right sPath' tPath' apart apart'
      refine ⟨c, alone, isCommon, fun l placed horizontal r routed => ?_⟩
      rw [isCommon]
      exact routeEdge_container routed source target sFound tFound
    · intro inside c
      exact not_ranked distinct layering c source target left right sPath' tPath' inside
  · intro c
    refine ⟨nodup_eraseDups _, fun i j => ⟨fun mem => ?_, projectEdges_spec distinct layering c i j⟩⟩
    obtain ⟨differ, -, -, -, -, -, -, -, -, -, -, ⟨_, isChild, -⟩, ⟨_, isChild', -⟩⟩ :=
      (projectEdges_spec distinct layering c i j).mp mem
    exact ⟨differ, (List.getElem?_eq_some_iff.mp isChild).1, (List.getElem?_eq_some_iff.mp isChild').1⟩

end Main

/-- A leaf of a request, with ports of these ids. -/
def leafWithPorts (id : String) (ports : List String) : Tree (LayoutNode Float32) :=
  .node ⟨id, [id], ports.map fun port => ⟨port, .east, port, 8, 8, .ofList []⟩, none, none, .ofList []⟩ []

/-- A frame around two leaves, of which one has a port. -/
def frameOfTwo : Tree (LayoutNode Float32) :=
  .node ⟨"F", ["F"], [], none, none, .ofList []⟩ [leafWithPorts "A" ["A_p"], leafWithPorts "B" []]

/-- The frame beside a leaf.  The first edge joins the leaves in the frame, the second one leads from the port to the leaf
outside, and the third one from the frame to a leaf in it. -/
def crossing : LayoutGraph Float32 :=
  { id := rootId
    options := .ofList []
    children := [frameOfTwo, leafWithPorts "C" []]
    edges := [⟨"e0", ["B"], ["A"], []⟩, ⟨"e1", ["A_p"], ["C"], []⟩, ⟨"e2", ["F"], ["B"], []⟩] }

/-- The placement of these nodes, with a layering that finds no layers. -/
def crossingPlacement : Placement Float32 ℚ := crossing.placement fun _ => .ok []

/-- The first edge is ranked in the frame, the second one in the root, and the third one nowhere. -/
theorem crossing_ranked :
    DistinctIds crossing.children ∧
      crossingPlacement.projectEdges ["F"] ["A", "B"] = [(1, 0)] ∧
      crossingPlacement.projectEdges [] ["F", "C"] = [(0, 1)] ∧
      (∃ c : Container crossing,
        RankedWhereRouted crossingPlacement ⟨"e1", ["A_p"], ["C"], []⟩ ["F", "A"] ["C"] c) ∧
      ∀ c : Container crossing, ¬ ∃ i j, RankedIn crossingPlacement c ⟨"e2", ["F"], ["B"], []⟩ i j := by
  have distinct : DistinctIds crossing.children := by decide
  have isFrame : frameOfTwo ∈ crossing.children := List.mem_cons_self
  have isLeaf : leafWithPorts "C" [] ∈ crossing.children := List.mem_cons_of_mem _ List.mem_cons_self
  have isPortLeaf : leafWithPorts "A" ["A_p"] ∈ frameOfTwo.children := List.mem_cons_self
  have isOther : leafWithPorts "B" [] ∈ frameOfTwo.children := List.mem_cons_of_mem _ List.mem_cons_self
  have port : Owner crossing "A_p" (leafWithPorts "A" ["A_p"]) :=
    ⟨_, .inside isFrame (.top isPortLeaf), by decide⟩
  have leaf : Owner crossing "C" (leafWithPorts "C" []) := ⟨_, .top isLeaf, by decide⟩
  have frame : Owner crossing "F" frameOfTwo := ⟨_, .top isFrame, by decide⟩
  have inner : Owner crossing "B" (leafWithPorts "B" []) := ⟨_, .inside isFrame (.top isOther), by decide⟩
  have inside : leafWithPorts "B" [] ∈ Tree.preorder frameOfTwo := by
    rw [Tree.preorder_eq_cons]
    exact List.mem_cons_of_mem _ (Tree.Branch.top isOther).mem_preorderForest
  have apart : ∀ {t u : Tree (LayoutNode Float32)}, t.value.id ∉ (Tree.preorder u).map (fun v => v.value.id) →
      t ∉ Tree.preorder u := fun noId mem => noId (List.mem_map_of_mem mem)
  obtain ⟨ranked, -⟩ := ranked_where_routed distinct (fun _ => .ok [] : Layering ℚ)
  obtain ⟨-, -, crosses⟩ :=
    ranked ⟨"e1", ["A_p"], ["C"], []⟩ "A_p" "C" ["F", "A"] ["C"] rfl rfl (by decide) (by decide)
  obtain ⟨-, -, goesIn⟩ :=
    ranked ⟨"e2", ["F"], ["B"], []⟩ "F" "B" ["F"] ["F", "B"] rfl rfl (by decide) (by decide)
  refine ⟨distinct, by decide, by decide, ?_, ?_⟩
  · exact (crosses _ _ port leaf).1 (apart (by decide)) (apart (by decide))
  · exact (goesIn _ _ frame inner).2 (.inr inside)

end BoxDiagram
