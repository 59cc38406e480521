/-
Module: BoxDiagram.Proofs.Walk
Purpose: The walk over a finished layout.  It visits the nodes in preorder, each at the place to which the corners of
  the nodes on its branch add up.
Main exports: walkForest_nodes, cornerAlong, exists_branch_of_mem_walkForest, Tree.Branch.exists_visit,
  findOriginForest?_eq, PositionedGraph.absoluteOrigin_eq, PositionedGraph.exists_absoluteOrigin
-/
import BoxDiagram.Layout.Positioned
import BoxDiagram.Proofs.Forest

namespace BoxDiagram

variable {α : Type} [Scalar α]

mutual

theorem walkTree_nodes :
    ∀ (origin : Point α) (depth : Nat) (t : Tree (PositionedNode α)),
      (walkTree origin depth t).map Visit.node = Tree.preorder t
  | origin, depth, .node n cs => by
      rw [walkTree, Tree.preorder_eq_cons]
      exact congrArg _ (walkForest_nodes _ _ cs)

/-- A walk visits the nodes in preorder. -/
theorem walkForest_nodes :
    ∀ (origin : Point α) (depth : Nat) (ts : List (Tree (PositionedNode α))),
      (walkForest origin depth ts).map Visit.node = Tree.preorderForest ts
  | origin, depth, [] => by
      rw [walkForest, Tree.preorderForest]
      rfl
  | origin, depth, t :: ts => by
      rw [walkForest, Tree.preorderForest_cons, List.map_append, walkTree_nodes, walkForest_nodes]

end

/-- The place of the node at the end of a branch: the corners of the nodes on the branch are added to `start` from the
outermost node to the innermost one. -/
def cornerAlong (start : Point α) (path : List (Tree (PositionedNode α))) : Point α :=
  path.foldl (fun place t => place + t.value.corner) start

mutual

/-- A visit below a tree is at the end of a branch. -/
theorem exists_branch_of_mem_walkTree {v : Visit α} :
    ∀ {start : Point α} {depth : Nat} {t : Tree (PositionedNode α)}, v ∈ walkTree start depth t →
      ∃ path, Tree.Branch [t] path v.node ∧ v.origin = cornerAlong start path ∧ v.depth + 1 = depth + path.length
  | start, depth, .node n cs, mem => by
      rw [walkTree] at mem
      rcases List.mem_cons.mp mem with rfl | below
      · exact ⟨_, .top (List.mem_singleton_self _), rfl, rfl⟩
      · obtain ⟨path, branch, place, deep⟩ := exists_branch_of_mem_walkForest below
        refine ⟨_, .inside (List.mem_singleton_self _) branch, place, ?_⟩
        rw [deep, List.length_cons, Nat.add_assoc, Nat.add_comm 1]

theorem exists_branch_of_mem_walkForest {v : Visit α} :
    ∀ {start : Point α} {depth : Nat} {ts : List (Tree (PositionedNode α))}, v ∈ walkForest start depth ts →
      ∃ path, Tree.Branch ts path v.node ∧ v.origin = cornerAlong start path ∧ v.depth + 1 = depth + path.length
  | start, depth, [], mem => by
      rw [walkForest] at mem
      exact absurd mem List.not_mem_nil
  | start, depth, t :: ts, mem => by
      rw [walkForest] at mem
      rcases List.mem_append.mp mem with inFirst | inRest
      · obtain ⟨path, branch, visit⟩ := exists_branch_of_mem_walkTree inFirst
        exact ⟨path, branch.ofHead ts, visit⟩
      · obtain ⟨path, branch, visit⟩ := exists_branch_of_mem_walkForest inRest
        exact ⟨path, branch.ofTail t, visit⟩

end

theorem walkTree_subset_of_mem {start : Point α} {depth : Nat} {t : Tree (PositionedNode α)}
    {ts : List (Tree (PositionedNode α))} (mem : t ∈ ts) : walkTree start depth t ⊆ walkForest start depth ts := by
  induction ts with
  | nil => exact absurd mem List.not_mem_nil
  | cons u ts ih =>
      rw [walkForest]
      rcases List.mem_cons.mp mem with rfl | later
      · exact List.subset_append_left _ _
      · exact List.Subset.trans (ih later) (List.subset_append_right _ _)

/-- The node at the end of a branch is visited. -/
theorem Tree.Branch.exists_visit {ts path : List (Tree (PositionedNode α))} {t : Tree (PositionedNode α)}
    (branch : Tree.Branch ts path t) (start : Point α) (depth : Nat) :
    ∃ v ∈ walkForest start depth ts, v.node = t ∧ v.origin = cornerAlong start path := by
  induction branch generalizing start depth with
  | @top _ t mem =>
      cases t with
      | node n cs =>
          refine ⟨⟨.node n cs, start + n.corner, depth⟩, walkTree_subset_of_mem mem ?_, rfl, rfl⟩
          rw [walkTree]
          exact List.mem_cons_self
  | @inside _ t _ _ mem _ ih =>
      cases t with
      | node n cs =>
          obtain ⟨v, visited, node, place⟩ := ih (start + n.corner) (depth + 1)
          refine ⟨v, walkTree_subset_of_mem mem ?_, node, place⟩
          rw [walkTree]
          exact List.mem_cons_of_mem _ visited

/-! ### The place found for an id -/

mutual

theorem findOriginTree?_eq (id : String) :
    ∀ (origin : Point α) (depth : Nat) (t : Tree (PositionedNode α)),
      findOriginTree? id origin t = ((walkTree origin depth t).find? fun v => v.node.value.id = id).map Visit.origin
  | origin, depth, .node n cs => by
      rw [findOriginTree?, walkTree, List.find?_cons]
      by_cases here : n.id = id
      · simp [here]
      · simp [here, findOriginForest?_eq id (origin + n.corner) (depth + 1) cs]

/-- The search for an id finds the place of the first visit to a node with this id. -/
theorem findOriginForest?_eq (id : String) :
    ∀ (origin : Point α) (depth : Nat) (ts : List (Tree (PositionedNode α))),
      findOriginForest? id origin ts = ((walkForest origin depth ts).find? fun v => v.node.value.id = id).map Visit.origin
  | origin, depth, [] => by
      rw [findOriginForest?, walkForest, List.find?_nil, Option.map_none]
  | origin, depth, t :: ts => by
      rw [findOriginForest?, walkForest, List.find?_append, Option.map_or, findOriginTree?_eq id origin depth t,
        findOriginForest?_eq id origin depth ts]
      cases ((walkTree origin depth t).find? fun v => v.node.value.id = id).map Visit.origin with
      | none => rfl
      | some found => rfl

end

namespace PositionedGraph

variable {g : PositionedGraph α} {id : String}

theorem absoluteOrigin_eq (notRoot : id ≠ rootId) :
    g.absoluteOrigin (some id) = ((g.walk.find? fun v => v.node.value.id = id).map Visit.origin).getD Point.origin := by
  rw [absoluteOrigin, if_neg notRoot, findOriginForest?_eq id Point.origin 0, walk]

/-- A container with the id of a node stands at the place of such a node. -/
theorem exists_absoluteOrigin (notRoot : id ≠ rootId)
    (mem : id ∈ (Tree.preorderForest g.children).map (·.value.id)) :
    ∃ v ∈ g.walk, v.node.value.id = id ∧ g.absoluteOrigin (some id) = v.origin := by
  rw [← walkForest_nodes Point.origin 0, List.map_map, List.mem_map] at mem
  obtain ⟨u, visited, hasId⟩ := mem
  have found : ∃ v, (g.walk.find? fun v => v.node.value.id = id) = some v := by
    rw [← Option.isSome_iff_exists, List.find?_isSome]
    exact ⟨u, visited, decide_eq_true hasId⟩
  obtain ⟨v, found⟩ := found
  refine ⟨v, List.mem_of_find?_eq_some found, by simpa using List.find?_some found, ?_⟩
  rw [absoluteOrigin_eq notRoot, found, Option.map_some, Option.getD_some]

/-- The root is named either by its id or by no container. -/
theorem absoluteOrigin_getD (container : Option String) :
    g.absoluteOrigin (some (container.getD rootId)) = g.absoluteOrigin container := by
  cases container with
  | none => simp [absoluteOrigin]
  | some id => rfl

end PositionedGraph

end BoxDiagram
