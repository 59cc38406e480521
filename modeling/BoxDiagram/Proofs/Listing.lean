/-
Module: BoxDiagram.Proofs.Listing
Purpose: The listing of a forest: its subtrees in the order of a traversal, each with its depth and with the position of
  the subtree directly around it.  Applying a function at every node keeps depths and positions.
Main exports: Tree.Entry, Tree.listing, Tree.parents, Tree.listing_trees, Tree.listForest_inherits,
  Tree.listing_surrounded, Tree.listing_mapForest
-/
import BoxDiagram.Proofs.Forest

namespace BoxDiagram.Tree

variable {α β : Type}

/-- A subtree in a listing, with the number of subtrees around it and the position in the listing of the one directly
around it, if there is one. -/
structure Entry (α : Type) where
  tree : Tree α
  depth : Nat
  parent : Option Nat

mutual

/-- The listing of a tree, which begins at `position`. -/
def listTree (depth : Nat) (parent : Option Nat) (position : Nat) : Tree α → List (Entry α)
  | node v cs => ⟨node v cs, depth, parent⟩ :: listForest (depth + 1) (some position) (position + 1) cs

/-- The listing of the trees of a list, one after the other. -/
def listForest (depth : Nat) (parent : Option Nat) (position : Nat) : List (Tree α) → List (Entry α)
  | [] => []
  | t :: ts => listTree depth parent position t ++ listForest depth parent (position + count t) ts

end

/-- The subtrees of a forest with their depths and with what is around them. -/
def listing (forest : List (Tree α)) : List (Entry α) := listForest 0 none 0 forest

/-- For every subtree of a forest, the position of the one directly around it. -/
def parents (forest : List (Tree α)) : List (Option Nat) := (listing forest).map Entry.parent

/-! ### What is listed -/

mutual

theorem listTree_trees (depth : Nat) (parent : Option Nat) :
    ∀ (position : Nat) (t : Tree α), (listTree depth parent position t).map Entry.tree = preorder t
  | position, .node v cs => by
      rw [listTree, List.map_cons, listForest_trees (depth + 1) (some position) (position + 1) cs, preorder]

theorem listForest_trees (depth : Nat) (parent : Option Nat) :
    ∀ (position : Nat) (ts : List (Tree α)), (listForest depth parent position ts).map Entry.tree = preorderForest ts
  | position, [] => by
      rw [listForest, List.map_nil, preorderForest]
  | position, t :: ts => by
      rw [listForest, List.map_append, listTree_trees depth parent position t,
        listForest_trees depth parent (position + count t) ts, preorderForest]

end

/-- A listing has the subtrees in the order in which they are visited. -/
theorem listing_trees (forest : List (Tree α)) : (listing forest).map Entry.tree = visit forest := by
  rw [listing, listForest_trees, visit_eq_preorderForest]

mutual

theorem length_preorder : ∀ t : Tree α, (preorder t).length = count t
  | .node v cs => by
      rw [preorder, List.length_cons, length_preorderForest cs, count]

/-- A traversal has as many steps as there are nodes. -/
theorem length_preorderForest : ∀ ts : List (Tree α), (preorderForest ts).length = countForest ts
  | [] => by
      rw [preorderForest, List.length_nil, countForest]
  | t :: ts => by
      rw [preorderForest, List.length_append, length_preorder t, length_preorderForest ts, countForest]

end

theorem length_listTree (depth : Nat) (parent : Option Nat) (position : Nat) (t : Tree α) :
    (listTree depth parent position t).length = count t := by
  rw [← length_preorder, ← listTree_trees depth parent position t, List.length_map]

/-! ### What passes down -/

mutual

theorem listTree_inherits {P : Nat → Tree α → Prop}
    (below : ∀ {depth : Nat} {t : Tree α}, P depth t → ∀ c ∈ t.children, P (depth + 1) c) :
    ∀ (depth : Nat) (parent : Option Nat) (position : Nat) (t : Tree α), P depth t →
      ∀ e ∈ listTree depth parent position t, P e.depth e.tree
  | depth, parent, position, .node v cs, here => by
      rw [listTree]
      have inside := listForest_inherits below (depth + 1) (some position) (position + 1) cs (below here)
      exact List.forall_mem_cons.mpr ⟨here, inside⟩

/-- What passes from every tree to its children, one deeper, holds for all entries if it holds for the outermost
ones. -/
theorem listForest_inherits {P : Nat → Tree α → Prop}
    (below : ∀ {depth : Nat} {t : Tree α}, P depth t → ∀ c ∈ t.children, P (depth + 1) c) :
    ∀ (depth : Nat) (parent : Option Nat) (position : Nat) (ts : List (Tree α)), (∀ t ∈ ts, P depth t) →
      ∀ e ∈ listForest depth parent position ts, P e.depth e.tree
  | depth, parent, position, [], _ => by
      simp [listForest]
  | depth, parent, position, t :: ts, outermost => by
      obtain ⟨first, others⟩ := List.forall_mem_cons.mp outermost
      have here := listTree_inherits below depth parent position t first
      have later := listForest_inherits below depth parent (position + count t) ts others
      rw [listForest]
      exact List.forall_mem_append.mpr ⟨here, later⟩

end

/-! ### What is around an entry -/

/-- The entry at place `k` of entries that begin at `position` is directly inside an entry before it. -/
def IsInside (entries : List (Entry α)) (position k : Nat) (e : Entry α) : Prop :=
  ∃ j above, j < k ∧ entries[j]? = some above ∧ e.parent = some (position + j) ∧ e.tree ∈ above.tree.children ∧
    e.depth = above.depth + 1

theorem IsInside.append_right {xs : List (Entry α)} {position k : Nat} {e : Entry α}
    (inside : IsInside xs position k e) (ys : List (Entry α)) : IsInside (xs ++ ys) position k e := by
  obtain ⟨j, above, before, isAbove, facts⟩ := inside
  have inRange := (List.getElem?_eq_some_iff.mp isAbove).1
  exact ⟨j, above, before, (List.getElem?_append_left inRange).trans isAbove, facts⟩

theorem IsInside.append_left {ys : List (Entry α)} {position k : Nat} {e : Entry α} (xs : List (Entry α))
    (inside : IsInside ys (position + xs.length) k e) : IsInside (xs ++ ys) position (xs.length + k) e := by
  obtain ⟨j, above, before, isAbove, isParent, facts⟩ := inside
  refine ⟨xs.length + j, above, Nat.add_lt_add_left before _, ?_, ?_, facts⟩
  · rw [List.getElem?_append_right (Nat.le_add_right _ _), Nat.add_sub_cancel_left]
    exact isAbove
  · rw [isParent, Nat.add_assoc]

/-- The entry is one of the outermost trees. -/
def IsOutermost (depth : Nat) (parent : Option Nat) (ts : List (Tree α)) (e : Entry α) : Prop :=
  e.depth = depth ∧ e.parent = parent ∧ e.tree ∈ ts

mutual

theorem listTree_surrounded (depth : Nat) (parent : Option Nat) :
    ∀ (position : Nat) (t : Tree α) {k : Nat} {e : Entry α}, (listTree depth parent position t)[k]? = some e →
      IsOutermost depth parent [t] e ∨ IsInside (listTree depth parent position t) position k e
  | position, .node v cs, 0, e, found => by
      rw [listTree] at found
      cases found
      exact .inl ⟨rfl, rfl, List.mem_singleton_self _⟩
  | position, .node v cs, k + 1, e, found => by
      rw [listTree, List.getElem?_cons_succ] at found
      rw [listTree]
      right
      rcases listForest_surrounded (depth + 1) (some position) (position + 1) cs found with outermost | inside
      · obtain ⟨deep, isParent, isChild⟩ := outermost
        exact ⟨0, _, Nat.succ_pos k, rfl, isParent, isChild, deep⟩
      · have later := inside.append_left [⟨.node v cs, depth, parent⟩]
        rw [List.length_singleton, Nat.add_comm 1 k] at later
        exact later

/-- An entry of a listing is one of the outermost trees, or it is directly inside an entry before it. -/
theorem listForest_surrounded (depth : Nat) (parent : Option Nat) :
    ∀ (position : Nat) (ts : List (Tree α)) {k : Nat} {e : Entry α}, (listForest depth parent position ts)[k]? = some e →
      IsOutermost depth parent ts e ∨ IsInside (listForest depth parent position ts) position k e
  | position, [], k, e, found => by
      rw [listForest] at found
      cases found
  | position, t :: ts, k, e, found => by
      rw [listForest] at found ⊢
      rcases Nat.lt_or_ge k (listTree depth parent position t).length with inFirst | inRest
      · rw [List.getElem?_append_left inFirst] at found
        rcases listTree_surrounded depth parent position t found with ⟨deep, isParent, isTree⟩ | inside
        · exact .inl ⟨deep, isParent, List.mem_singleton.mp isTree ▸ List.mem_cons_self⟩
        · exact .inr (inside.append_right _)
      · rw [List.getElem?_append_right inRest] at found
        rcases listForest_surrounded depth parent (position + count t) ts found with ⟨deep, isParent, isTree⟩ | inside
        · exact .inl ⟨deep, isParent, List.mem_cons_of_mem t isTree⟩
        · rw [← length_listTree depth parent position t] at inside
          have later := inside.append_left (listTree depth parent position t)
          rw [Nat.add_sub_cancel' inRest, length_listTree] at later
          exact .inr later

end

/-- A listing tells for every subtree what is directly around it: either nothing, and then the subtree is one of the
forest, or the subtree at an earlier position, of which it is a child. -/
theorem listing_surrounded {forest : List (Tree α)} {k : Nat} {e : Entry α} (found : (listing forest)[k]? = some e) :
    (e.depth = 0 ∧ e.parent = none ∧ e.tree ∈ forest) ∨
      ∃ j above, j < k ∧ (listing forest)[j]? = some above ∧ e.parent = some j ∧ e.tree ∈ above.tree.children ∧
        e.depth = above.depth + 1 := by
  rcases listForest_surrounded 0 none 0 forest found with outermost | ⟨j, above, inside⟩
  · exact .inl outermost
  · rw [Nat.zero_add] at inside
    exact .inr ⟨j, above, inside⟩

/-! ### Applying a function at every node -/

/-- An entry with the function applied at every node of its tree. -/
def Entry.map (f : Tree α → β) (e : Entry α) : Entry β := ⟨mapTree f e.tree, e.depth, e.parent⟩

mutual

theorem count_mapTree (f : Tree α → β) : ∀ t : Tree α, count (mapTree f t) = count t
  | .node v cs => by
      rw [mapTree, count, count, countForest_mapForest f cs]

theorem countForest_mapForest (f : Tree α → β) : ∀ ts : List (Tree α), countForest (mapForest f ts) = countForest ts
  | [] => by
      rw [mapForest, countForest, countForest]
  | t :: ts => by
      rw [mapForest, countForest, countForest, count_mapTree f t, countForest_mapForest f ts]

end

mutual

theorem listTree_mapTree (f : Tree α → β) (depth : Nat) (parent : Option Nat) :
    ∀ (position : Nat) (t : Tree α),
      listTree depth parent position (mapTree f t) = (listTree depth parent position t).map (Entry.map f)
  | position, .node v cs => by
      rw [mapTree, listTree, listForest_mapForest f (depth + 1) (some position) (position + 1) cs, listTree, List.map_cons,
        Entry.map, mapTree]

theorem listForest_mapForest (f : Tree α → β) (depth : Nat) (parent : Option Nat) :
    ∀ (position : Nat) (ts : List (Tree α)),
      listForest depth parent position (mapForest f ts) = (listForest depth parent position ts).map (Entry.map f)
  | position, [] => by
      rw [mapForest, listForest, listForest, List.map_nil]
  | position, t :: ts => by
      rw [mapForest, listForest, listForest, listTree_mapTree f depth parent position t, count_mapTree,
        listForest_mapForest f depth parent (position + count t) ts, List.map_append]

end

/-- The listing of a mapped forest is the mapped listing. -/
theorem listing_mapForest (f : Tree α → β) (forest : List (Tree α)) :
    listing (mapForest f forest) = (listing forest).map (Entry.map f) :=
  listForest_mapForest f 0 none 0 forest

/-- Applying a function at every node changes nothing about what is around what. -/
theorem parents_mapForest (f : Tree α → β) (forest : List (Tree α)) : parents (mapForest f forest) = parents forest := by
  rw [parents, listing_mapForest, List.map_map]
  rfl

@[simp] theorem isCompound_mapTree (f : Tree α → β) (t : Tree α) : (mapTree f t).isCompound = t.isCompound := by
  rw [isCompound, isCompound, mapTree_children, mapForest_eq_map]
  cases t.children with
  | nil => rfl
  | cons c cs => rfl

end BoxDiagram.Tree
