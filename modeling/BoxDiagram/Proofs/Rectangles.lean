/-
Module: BoxDiagram.Proofs.Rectangles
Purpose: How rectangles with exact coordinates lie: one inside another, or apart.
Main exports: Bounds.Interior, Bounds.DisjointInteriors, Bounds.Within, Bounds.Apart, Bounds.reduce
-/
import BoxDiagram.Geometry
import Mathlib.Data.Rat.Defs
import Mathlib.Tactic.Linarith

namespace BoxDiagram

namespace Bounds

/-- The points inside a rectangle that are not on its boundary. -/
def Interior (b : Bounds ℚ) (p : Point ℚ) : Prop :=
  b.minX < p.x ∧ p.x < b.maxX ∧ b.minY < p.y ∧ p.y < b.maxY

/-- No point is inside both rectangles.  They may touch. -/
def DisjointInteriors (a b : Bounds ℚ) : Prop := ∀ p : Point ℚ, ¬ (a.Interior p ∧ b.Interior p)

/-- The first rectangle lies in the second one. -/
def Within (inner outer : Bounds ℚ) : Prop :=
  outer.minX ≤ inner.minX ∧ outer.minY ≤ inner.minY ∧ inner.maxX ≤ outer.maxX ∧ inner.maxY ≤ outer.maxY

/-- One rectangle lies beyond the other along some axis. -/
def Apart (a b : Bounds ℚ) : Prop :=
  a.maxX ≤ b.minX ∨ b.maxX ≤ a.minX ∨ a.maxY ≤ b.minY ∨ b.maxY ≤ a.minY

/-- The rectangle without the insets along its sides. -/
def reduce (b : Bounds ℚ) (i : Insets ℚ) : Bounds ℚ :=
  ⟨b.minX + i.left, b.minY + i.top, b.maxX - i.right, b.maxY - i.bottom⟩

/-- The rectangle moved to the right and down. -/
def shift (b : Bounds ℚ) (dx dy : ℚ) : Bounds ℚ := ⟨b.minX + dx, b.minY + dy, b.maxX + dx, b.maxY + dy⟩

theorem Within.refl (b : Bounds ℚ) : b.Within b := ⟨le_refl _, le_refl _, le_refl _, le_refl _⟩

theorem Within.trans {a b c : Bounds ℚ} (inner : a.Within b) (outer : b.Within c) : a.Within c := by
  obtain ⟨left, top, right, bottom⟩ := inner
  obtain ⟨left', top', right', bottom'⟩ := outer
  exact ⟨left'.trans left, top'.trans top, right.trans right', bottom.trans bottom'⟩

theorem Apart.symm {a b : Bounds ℚ} (apart : a.Apart b) : b.Apart a := by
  rcases apart with right | left | below | above
  · exact .inr (.inl right)
  · exact .inl left
  · exact .inr (.inr (.inr below))
  · exact .inr (.inr (.inl above))

/-- What lies in rectangles that are apart is apart. -/
theorem Apart.mono {a b a' b' : Bounds ℚ} (apart : a'.Apart b') (inner : a.Within a') (inner' : b.Within b') :
    a.Apart b := by
  obtain ⟨left, top, right, bottom⟩ := inner
  obtain ⟨left', top', right', bottom'⟩ := inner'
  rcases apart with beyond | beyond | beyond | beyond
  · exact .inl ((right.trans beyond).trans left')
  · exact .inr (.inl ((right'.trans beyond).trans left))
  · exact .inr (.inr (.inl ((bottom.trans beyond).trans top')))
  · exact .inr (.inr (.inr ((bottom'.trans beyond).trans top)))

theorem Apart.disjointInteriors {a b : Bounds ℚ} (apart : a.Apart b) : a.DisjointInteriors b := by
  rintro p ⟨⟨left, right, top, bottom⟩, ⟨left', right', top', bottom'⟩⟩
  rcases apart with beyond | beyond | beyond | beyond
  all_goals linarith

theorem Apart.shift {a b : Bounds ℚ} (apart : a.Apart b) (dx dy : ℚ) : (a.shift dx dy).Apart (b.shift dx dy) := by
  rcases apart with beyond | beyond | beyond | beyond
  · exact .inl (add_le_add_left beyond dx)
  · exact .inr (.inl (add_le_add_left beyond dx))
  · exact .inr (.inr (.inl (add_le_add_left beyond dy)))
  · exact .inr (.inr (.inr (add_le_add_left beyond dy)))

end Bounds

end BoxDiagram
