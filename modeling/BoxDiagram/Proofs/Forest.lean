/-
Module: BoxDiagram.Proofs.Forest
Purpose: Traversals of forests.  The traversal with a stack visits the subtrees in preorder, applying a function
  at every node keeps the shape of a forest, and every subtree hangs on a branch from the top.
Main exports: Tree.visit_eq_preorderForest, Tree.preorderForest_mapForest, Tree.Branch,
  Tree.mem_preorderForest_iff
-/
import BoxDiagram.Tree
import Mathlib.Data.List.Forall2

namespace BoxDiagram.Tree

variable {α β : Type}

/-! ### Preorder -/

theorem preorder_eq_cons (t : Tree α) : preorder t = t :: preorderForest t.children := by
  cases t with
  | node v cs => rw [preorder, children_node]

theorem preorderForest_cons (t : Tree α) (ts : List (Tree α)) :
    preorderForest (t :: ts) = preorder t ++ preorderForest ts := by
  rw [preorderForest]

theorem preorderForest_append (xs ys : List (Tree α)) :
    preorderForest (xs ++ ys) = preorderForest xs ++ preorderForest ys := by
  induction xs with
  | nil => rw [List.nil_append, preorderForest, List.nil_append]
  | cons x xs ih =>
      rw [List.cons_append, preorderForest_cons, preorderForest_cons, ih, List.append_assoc]

/-- The traversal with a stack visits what the recursive one does.  The induction is on the steps of the
traversal: taking the top off the stack and putting its children there is one step of the recursion. -/
theorem visit_eq_preorderForest (stack : List (Tree α)) : visit stack = preorderForest stack := by
  induction stack using visit.induct with
  | case1 => rw [visit, preorderForest]
  | case2 v cs stack ih =>
      rw [visit, ih, preorderForest_append, preorderForest_cons, preorder_eq_cons]
      rfl

/-- Visiting the trees of a list one after the other is visiting all of them. -/
theorem flatMap_visit_singleton (ts : List (Tree α)) :
    (ts.flatMap fun t => visit [t]) = preorderForest ts := by
  induction ts with
  | nil => rw [List.flatMap_nil, preorderForest]
  | cons t ts ih =>
      rw [List.flatMap_cons, ih, visit_eq_preorderForest, preorderForest_cons, preorderForest_cons,
        preorderForest, List.append_nil]

theorem preorderForest_eq_flatMap (ts : List (Tree α)) : preorderForest ts = ts.flatMap preorder := by
  induction ts with
  | nil => rw [preorderForest, List.flatMap_nil]
  | cons t ts ih => rw [preorderForest_cons, List.flatMap_cons, ih]

/-- What needs a property of all subtrees of a tree holds for every tree of a forest whose subtrees have it. -/
theorem forall₂_of_preorderForest {P : Tree α → Prop} {R : Tree α → β → Prop} {ts : List (Tree α)} {us : List β}
    (holds : ∀ s ∈ preorderForest ts, P s) (all : List.Forall₂ (fun t u => (∀ s ∈ preorder t, P s) → R t u) ts us) :
    List.Forall₂ R ts us := by
  induction all with
  | nil => exact .nil
  | cons here _ ih =>
      rw [preorderForest_cons] at holds
      obtain ⟨holdsHere, holdsRest⟩ := List.forall_mem_append.mp holds
      exact .cons (here holdsHere) (ih holdsRest)

/-! ### Applying a function at every node -/

theorem mapForest_eq_map (f : Tree α → β) (ts : List (Tree α)) : mapForest f ts = ts.map (mapTree f) := by
  induction ts with
  | nil => rw [mapForest, List.map_nil]
  | cons t ts ih => rw [mapForest, ih, List.map_cons]

@[simp] theorem mapTree_value (f : Tree α → β) (t : Tree α) : (mapTree f t).value = f t := by
  cases t with
  | node v cs => rw [mapTree, value_node]

@[simp] theorem mapTree_children (f : Tree α → β) (t : Tree α) :
    (mapTree f t).children = mapForest f t.children := by
  cases t with
  | node v cs => rw [mapTree, children_node, children_node]

mutual

/-- The subtrees of a mapped tree are the mapped subtrees. -/
theorem preorder_mapTree (f : Tree α → β) :
    ∀ t : Tree α, preorder (mapTree f t) = (preorder t).map (mapTree f)
  | .node v cs => by
      rw [preorder_eq_cons, preorder_eq_cons, mapTree_children, children_node, List.map_cons,
        preorderForest_mapForest f cs]

/-- The subtrees of a mapped forest are the mapped subtrees. -/
theorem preorderForest_mapForest (f : Tree α → β) :
    ∀ ts : List (Tree α), preorderForest (mapForest f ts) = (preorderForest ts).map (mapTree f)
  | [] => by rw [mapForest, preorderForest, preorderForest, List.map_nil]
  | t :: ts => by
      rw [mapForest, preorderForest_cons, preorderForest_cons, List.map_append, preorder_mapTree f t,
        preorderForest_mapForest f ts]

end

/-! ### Branches -/

/-- Going down from the top of a forest to a subtree one meets these subtrees, the one it ends with last. -/
inductive Branch : List (Tree α) → List (Tree α) → Tree α → Prop where
  | top {forest : List (Tree α)} {t : Tree α} (mem : t ∈ forest) : Branch forest [t] t
  | inside {forest : List (Tree α)} {t u : Tree α} {path : List (Tree α)} (mem : t ∈ forest)
      (rest : Branch t.children path u) : Branch forest (t :: path) u

namespace Branch

variable {forest path : List (Tree α)} {t u : Tree α}

/-- A branch ends with the subtree it leads to. -/
theorem getLast?_eq (b : Branch forest path u) : path.getLast? = some u := by
  induction b with
  | top _ => rfl
  | inside _ _ ih => rw [List.getLast?_cons, ih, Option.getD_some]

/-- A branch stays one when more trees are put into the forest. -/
theorem mono {larger : List (Tree α)} (sub : forest ⊆ larger) (b : Branch forest path u) :
    Branch larger path u := by
  cases b with
  | top mem => exact .top (sub mem)
  | inside mem rest => exact .inside (sub mem) rest

theorem ofHead (b : Branch [t] path u) (ts : List (Tree α)) : Branch (t :: ts) path u :=
  b.mono (List.cons_subset.mpr ⟨List.mem_cons_self, List.nil_subset _⟩)

theorem ofTail (t : Tree α) (b : Branch forest path u) : Branch (t :: forest) path u :=
  b.mono (List.subset_cons_self t forest)

/-- The branches of a forest are branches of the mapped forest. -/
theorem mapForest (f : Tree α → β) (b : Branch forest path u) :
    Branch (Tree.mapForest f forest) (path.map (mapTree f)) (mapTree f u) := by
  induction b with
  | top mem =>
      apply Branch.top
      rw [mapForest_eq_map]
      exact List.mem_map_of_mem mem
  | inside mem _ ih =>
      apply Branch.inside
      · rw [mapForest_eq_map]
        exact List.mem_map_of_mem mem
      · rw [mapTree_children]
        exact ih

end Branch

mutual

/-- A subtree of a tree hangs on a branch that begins with the tree. -/
theorem exists_branch_of_mem_preorder {u : Tree α} :
    ∀ {t : Tree α}, u ∈ preorder t → ∃ path, Branch [t] path u
  | .node v cs, mem => by
      rw [preorder_eq_cons] at mem
      rcases List.mem_cons.mp mem with rfl | below
      · exact ⟨_, .top (List.mem_singleton_self _)⟩
      · obtain ⟨path, rest⟩ := exists_branch_of_mem_preorderForest below
        exact ⟨_, .inside (List.mem_singleton_self _) rest⟩

/-- Every subtree of a forest hangs on a branch. -/
theorem exists_branch_of_mem_preorderForest {u : Tree α} :
    ∀ {ts : List (Tree α)}, u ∈ preorderForest ts → ∃ path, Branch ts path u
  | [], mem => by
      rw [preorderForest] at mem
      exact absurd mem List.not_mem_nil
  | t :: ts, mem => by
      rw [preorderForest_cons] at mem
      rcases List.mem_append.mp mem with inFirst | inRest
      · obtain ⟨path, b⟩ := exists_branch_of_mem_preorder inFirst
        exact ⟨path, b.ofHead ts⟩
      · obtain ⟨path, b⟩ := exists_branch_of_mem_preorderForest inRest
        exact ⟨path, b.ofTail t⟩

end

theorem preorder_subset_of_mem {t : Tree α} {ts : List (Tree α)} (mem : t ∈ ts) :
    preorder t ⊆ preorderForest ts := by
  obtain ⟨before, after, rfl⟩ := List.append_of_mem mem
  intro u inTree
  rw [preorderForest_append, preorderForest_cons]
  exact List.mem_append_right _ (List.mem_append_left _ inTree)

theorem Branch.mem_preorderForest {forest path : List (Tree α)} {u : Tree α}
    (b : Branch forest path u) : u ∈ preorderForest forest := by
  induction b with
  | @top forest t mem =>
      apply preorder_subset_of_mem mem
      rw [preorder_eq_cons]
      exact List.mem_cons_self
  | @inside forest t u path mem _ ih =>
      apply preorder_subset_of_mem mem
      rw [preorder_eq_cons]
      exact List.mem_cons_of_mem _ ih

/-- The subtrees of a forest are those at the ends of its branches. -/
theorem mem_preorderForest_iff {forest : List (Tree α)} {u : Tree α} :
    u ∈ preorderForest forest ↔ ∃ path, Branch forest path u :=
  ⟨exists_branch_of_mem_preorderForest, fun ⟨_, b⟩ => b.mem_preorderForest⟩

end BoxDiagram.Tree
