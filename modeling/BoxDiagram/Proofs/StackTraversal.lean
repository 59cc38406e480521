/-
Module: BoxDiagram.Proofs.StackTraversal
Purpose: The traversal of a forest call by call.  A call takes the next subtree off a stack and puts its children there
  in its place, the last one first, so that the first one is next.
Main exports: Tree.Traversal, Tree.Traversal.next, Tree.Traversal.Yields, Tree.Traversal.remaining_afterCalls,
  Tree.Traversal.yields_iff
-/
import BoxDiagram.Proofs.Forest

namespace BoxDiagram.Tree

variable {α : Type}

/-- A traversal that is under way.  The stack holds subtrees that are still to be visited, each with all that is in it;
the next one is at the end. -/
structure Traversal (α : Type) where
  stack : Array (Tree α)

namespace Traversal

/-- The traversal of a forest begins with its first tree. -/
def ofForest (roots : List (Tree α)) : Traversal α := ⟨roots.reverse.toArray⟩

/-- The traversal of a tree begins with the tree itself. -/
def ofTree (t : Tree α) : Traversal α := ⟨#[t]⟩

/-- One call: the subtree that is visited, if there is one left, and the traversal after it. -/
def next (s : Traversal α) : Option (Tree α) × Traversal α :=
  match s.stack.back? with
  | none => (none, s)
  | some t => (some t, ⟨s.stack.pop ++ t.children.reverse⟩)

/-- The traversal after a number of calls, whether or not they found something to visit. -/
def afterCalls : Nat → Traversal α → Traversal α
  | 0, s => s
  | k + 1, s => s.next.2.afterCalls k

/-- The answer to the call after `k` others. -/
def answer (s : Traversal α) (k : Nat) : Option (Tree α) := (s.afterCalls k).next.1

/-- The calls are answered with the entries of the list in turn, and with nothing from then on. -/
def Yields (s : Traversal α) (visited : List (Tree α)) : Prop := ∀ k, s.answer k = visited[k]?

/-! ### What is left to visit -/

/-- The subtrees that are still to be visited, from the end of the stack on. -/
def pending (s : Traversal α) : List (Tree α) := s.stack.toList.reverse

@[simp] theorem pending_ofForest (roots : List (Tree α)) : (ofForest roots).pending = roots := by
  simp [pending, ofForest]

@[simp] theorem pending_ofTree (t : Tree α) : (ofTree t).pending = [t] := rfl

theorem next_of_pending_nil {s : Traversal α} (finished : s.pending = []) : s.next = (none, s) := by
  have empty : s.stack.back? = none := by
    rw [← Array.getLast?_toList, List.reverse_eq_nil_iff.mp finished, List.getLast?_nil]
  rw [next, empty]

theorem next_of_pending_cons {s : Traversal α} {t : Tree α} {rest : List (Tree α)} (left : s.pending = t :: rest) :
    s.next.1 = some t ∧ s.next.2.pending = t.children ++ rest := by
  have ends : s.stack.toList = rest.reverse ++ [t] := List.reverse_eq_cons_iff.mp left
  have top : s.stack.back? = some t := by
    rw [← Array.getLast?_toList, ends, List.getLast?_concat]
  rw [next, top]
  refine ⟨rfl, ?_⟩
  rw [pending, Array.toList_appendList, Array.toList_pop, ends, List.dropLast_concat, List.reverse_append,
    List.reverse_reverse, List.reverse_reverse]

/-- All visits that are still to come: the subtrees on the stack with what is in them. -/
def remaining (s : Traversal α) : List (Tree α) := preorderForest s.pending

/-- A call is answered with the first of the visits to come, and leaves the others in their order. -/
theorem next_remaining (s : Traversal α) :
    s.next.1 = s.remaining.head? ∧ s.next.2.remaining = s.remaining.tail := by
  cases left : s.pending with
  | nil =>
      rw [next_of_pending_nil left, remaining, left, preorderForest]
      exact ⟨rfl, rfl⟩
  | cons t rest =>
      obtain ⟨answered, after⟩ := next_of_pending_cons left
      have visits : s.remaining = t :: preorderForest (t.children ++ rest) := by
        rw [remaining, left, preorderForest_cons, preorder_eq_cons, preorderForest_append, List.cons_append]
      have later : s.next.2.remaining = preorderForest (t.children ++ rest) := by rw [remaining, after]
      rw [answered, later, visits]
      exact ⟨rfl, rfl⟩

/-! ### Any number of calls -/

/-- Every call takes one of the visits to come, so their number bounds the calls that are answered.  The size of the
stack does not: it grows with every subtree that has several children. -/
theorem remaining_afterCalls (k : Nat) (s : Traversal α) : (s.afterCalls k).remaining = s.remaining.drop k := by
  induction k generalizing s with
  | zero => rw [afterCalls, List.drop_zero]
  | succ k ih => rw [afterCalls, ih, (next_remaining s).2, List.drop_tail]

theorem answer_eq (s : Traversal α) (k : Nat) : s.answer k = s.remaining[k]? := by
  rw [answer, (next_remaining _).1, remaining_afterCalls, List.head?_drop]

/-- A traversal yields the visits to come, and no other list. -/
theorem yields_iff {s : Traversal α} {visited : List (Tree α)} : s.Yields visited ↔ visited = s.remaining := by
  constructor
  · intro yields
    apply List.ext_getElem?
    intro k
    rw [← yields k, answer_eq]
  · rintro rfl
    exact answer_eq s

/-- The children of the first tree come before the second tree. -/
example :
    ((List.range 5).map fun k => ((ofForest [node 1 [node 2 [], node 3 []], node 4 []]).answer k).map value) =
      [some 1, some 2, some 3, some 4, none] := by decide

end Traversal

end BoxDiagram.Tree
