/-
Module: BoxDiagram.Tree
Purpose: Trees with any number of ordered children.  Boxes, the nodes of a layout request and the nodes of a
  finished layout are the values at the nodes of such trees.
Main exports: Tree, Tree.preorder, Tree.visit, Tree.map, Tree.count
-/

namespace BoxDiagram

/-- A value with an ordered list of subtrees. -/
inductive Tree (α : Type) where
  | node (value : α) (children : List (Tree α))
deriving Repr

namespace Tree

variable {α β : Type}

def value : Tree α → α
  | node v _ => v

/-- The subtrees directly below the root. -/
def children : Tree α → List (Tree α)
  | node _ cs => cs

def isCompound (t : Tree α) : Bool := !t.children.isEmpty

instance [Inhabited α] : Inhabited (Tree α) := ⟨node default []⟩

@[simp] theorem value_node (v : α) (cs : List (Tree α)) : (node v cs).value = v := rfl

@[simp] theorem children_node (v : α) (cs : List (Tree α)) : (node v cs).children = cs := rfl

theorem isCompound_iff {t : Tree α} : t.isCompound = true ↔ t.children ≠ [] := by
  simp [isCompound]

/-! ### Recursive definitions -/

mutual

def count : Tree α → Nat
  | node _ cs => countForest cs + 1

/-- Number of nodes of all trees of a list. -/
def countForest : List (Tree α) → Nat
  | [] => 0
  | t :: ts => count t + countForest ts

end

mutual

/-- All subtrees: the tree itself, then those of its children in order. -/
def preorder : Tree α → List (Tree α)
  | node v cs => node v cs :: preorderForest cs

/-- All subtrees of the trees of a list, in order. -/
def preorderForest : List (Tree α) → List (Tree α)
  | [] => []
  | t :: ts => preorder t ++ preorderForest ts

end

mutual

/-- Apply a function at every node.  It sees the whole subtree, so it can tell leaves from compounds. -/
def mapTree (f : Tree α → β) : Tree α → Tree β
  | node v cs => node (f (node v cs)) (mapForest f cs)

/-- Apply a function at every node of the trees of a list. -/
def mapForest (f : Tree α → β) : List (Tree α) → List (Tree β)
  | [] => []
  | t :: ts => mapTree f t :: mapForest f ts

end

theorem countForest_append (xs ys : List (Tree α)) :
    countForest (xs ++ ys) = countForest xs + countForest ys := by
  induction xs with
  | nil => simp [countForest]
  | cons x xs ih => simp [countForest, ih]; omega

/-! ### Traversal with an explicit stack -/

/-- Visit all subtrees of the trees on a stack, parents before children: the top of the stack is taken off
and its children are put in its place. -/
def visit : List (Tree α) → List (Tree α)
  | [] => []
  | node v cs :: stack => node v cs :: visit (cs ++ stack)
termination_by stack => countForest stack
decreasing_by simp [countForest, count, countForest_append]

end Tree

end BoxDiagram
