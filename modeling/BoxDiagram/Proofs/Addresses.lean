/-
Module: BoxDiagram.Proofs.Addresses
Purpose: Subtrees of a forest named by the children to choose on the way down.  In preorder these names are met in
  lexicographic order, each one once.
Main exports: Tree.descend?, Tree.addressesForest, Tree.mem_addressesForest_iff, Tree.addressesForest_pairwise
-/
import BoxDiagram.Proofs.Forest
import Mathlib.Data.List.Lex

namespace BoxDiagram.Tree

variable {α : Type}

/-- The subtrees met on the way down a forest, the outermost one first.  Every number of the address chooses one of the
trees to go on with, and there are none where a choice is not among them. -/
def descend? : List (Tree α) → List Nat → Option (List (Tree α))
  | _, [] => some []
  | forest, i :: address => forest[i]?.bind fun t => (descend? t.children address).map (t :: ·)

@[simp] theorem descend?_nil (forest : List (Tree α)) : descend? forest [] = some [] := by
  rw [descend?]

theorem descend?_cons {forest : List (Tree α)} {i : Nat} {t : Tree α} (chosen : forest[i]? = some t)
    (address : List Nat) : descend? forest (i :: address) = (descend? t.children address).map (t :: ·) := by
  rw [descend?, chosen, Option.bind_some]

theorem descend?_cons_isSome {forest : List (Tree α)} {i : Nat} {t : Tree α} (chosen : forest[i]? = some t)
    (address : List Nat) : (descend? forest (i :: address)).isSome ↔ (descend? t.children address).isSome := by
  simp [descend?_cons chosen]

mutual

/-- The addresses of the subtrees of a tree, as seen from the tree, in preorder. -/
def addresses : Tree α → List (List Nat)
  | .node _ cs => [] :: addressesForest 0 cs

/-- The addresses of the subtrees of trees that are numbered from `i` on, in preorder. -/
def addressesForest (i : Nat) : List (Tree α) → List (List Nat)
  | [] => []
  | t :: ts => (addresses t).map (i :: ·) ++ addressesForest (i + 1) ts

end

/-! ### All subtrees have an address -/

theorem getElem?_of_drop {forest ts : List (Tree α)} {t : Tree α} {i : Nat} (dropped : forest.drop i = t :: ts) :
    forest[i]? = some t ∧ forest.drop (i + 1) = ts := by
  constructor
  · have first : (forest.drop i)[0]? = some t := by rw [dropped]; rfl
    simpa using first
  · rw [← List.drop_drop, dropped, List.drop_one, List.tail_cons]

mutual

theorem mem_addresses_iff : ∀ {t : Tree α} {address : List Nat},
    address ∈ addresses t ↔ (descend? t.children address).isSome
  | .node v cs, [] => by simp [addresses]
  | .node v cs, i :: address => by
      have whole : cs.drop 0 = cs := List.drop_zero
      rw [addresses, children_node, List.mem_cons, mem_addressesForest_iff whole]
      simp

/-- The addresses of the last trees of a forest are those that lead into one of these trees. -/
theorem mem_addressesForest_iff : ∀ {ts forest : List (Tree α)} {i : Nat} {address : List Nat}, forest.drop i = ts →
    (address ∈ addressesForest i ts ↔ ∃ j rest, address = j :: rest ∧ i ≤ j ∧ (descend? forest address).isSome)
  | [], forest, i, address, dropped => by
      rw [addressesForest]
      constructor
      · intro mem
        exact absurd mem List.not_mem_nil
      · rintro ⟨j, rest, rfl, atLeast, found⟩
        have past : forest[j]? = none := List.getElem?_eq_none (le_trans (List.drop_eq_nil_iff.mp dropped) atLeast)
        simp [descend?, past] at found
  | t :: ts, forest, i, address, dropped => by
      obtain ⟨chosen, later⟩ := getElem?_of_drop dropped
      rw [addressesForest, List.mem_append, List.mem_map, mem_addressesForest_iff later]
      constructor
      · rintro (⟨rest, inTree, rfl⟩ | ⟨j, rest, rfl, atLeast, found⟩)
        · exact ⟨i, rest, rfl, le_rfl, (descend?_cons_isSome chosen rest).mpr (mem_addresses_iff.mp inTree)⟩
        · exact ⟨j, rest, rfl, Nat.le_of_succ_le atLeast, found⟩
      · rintro ⟨j, rest, rfl, atLeast, found⟩
        rcases Nat.eq_or_lt_of_le atLeast with rfl | beyond
        · exact .inl ⟨rest, mem_addresses_iff.mpr ((descend?_cons_isSome chosen rest).mp found), rfl⟩
        · exact .inr ⟨j, rest, rfl, beyond, found⟩

end

/-! ### The order of the addresses -/

theorem exists_cons_of_mem_addressesForest {ts : List (Tree α)} {i : Nat} {address : List Nat}
    (mem : address ∈ addressesForest i ts) : ∃ j rest, address = j :: rest ∧ i ≤ j := by
  induction ts generalizing i with
  | nil => simp [addressesForest] at mem
  | cons t ts ih =>
      rw [addressesForest, List.mem_append, List.mem_map] at mem
      rcases mem with ⟨rest, _, rfl⟩ | later
      · exact ⟨i, rest, rfl, le_rfl⟩
      · obtain ⟨j, rest, split, atLeast⟩ := ih later
        exact ⟨j, rest, split, by omega⟩

mutual

theorem addresses_pairwise : ∀ t : Tree α, (addresses t).Pairwise (· < ·)
  | .node v cs => by
      rw [addresses, List.pairwise_cons]
      constructor
      · intro address mem
        obtain ⟨j, rest, rfl, -⟩ := exists_cons_of_mem_addressesForest mem
        exact List.nil_lt_cons j rest
      · exact addressesForest_pairwise 0 cs

/-- In preorder every address is before the addresses that come later: an address is before those that it begins, and
addresses that part are in the order of the numbers with which they part. -/
theorem addressesForest_pairwise : ∀ (i : Nat) (ts : List (Tree α)), (addressesForest i ts).Pairwise (· < ·)
  | i, [] => by
      rw [addressesForest]
      exact List.Pairwise.nil
  | i, t :: ts => by
      rw [addressesForest, List.pairwise_append]
      refine ⟨?_, addressesForest_pairwise (i + 1) ts, ?_⟩
      · rw [List.pairwise_map]
        exact (addresses_pairwise t).imp fun before => List.cons_lt_cons_iff.mpr (.inr ⟨rfl, before⟩)
      · intro here inFirst later inRest
        obtain ⟨rest, -, rfl⟩ := List.mem_map.mp inFirst
        obtain ⟨j, laterRest, rfl, after⟩ := exists_cons_of_mem_addressesForest inRest
        exact List.cons_lt_cons_iff.mpr (.inl (by omega))

end

end BoxDiagram.Tree
