/-
Module: BoxDiagram.Layout.Coordinate
Purpose: The coordinates of a layering, as far as their order and their closeness count.
Main exports: Coordinate, floatRank
-/

namespace BoxDiagram

/-- Coordinates that can be sorted and told apart up to a tolerance. -/
class Coordinate (κ : Type) where
  /-- A total order on all coordinates, also on those that are not numbers. -/
  before : κ → κ → Bool
  before_total : ∀ a b : κ, (before a b || before b a) = true
  before_trans : ∀ a b c : κ, before a b = true → before b c = true → before a c = true
  /-- Are two coordinates the same up to the tolerance? -/
  close : κ → κ → Bool

/-- The place of a floating number among all of them: an undefined value first, then from minus infinity to
infinity, with the negative zero before zero. -/
def floatRank (x : Float) : Int :=
  if x.isNaN then -0x8000000000000000
  else
    let bits := x.toBits.toNat
    if bits < 0x8000000000000000 then bits else 0x7FFFFFFFFFFFFFFF - (bits : Int)

instance : Coordinate Float where
  before a b := floatRank a ≤ floatRank b
  before_total a b := by
    rcases Int.le_total (floatRank a) (floatRank b) with h | h <;> simp [h]
  before_trans a b c h k := by
    simp only [decide_eq_true_eq] at *
    exact Int.le_trans h k
  close a b := (a - b).abs < 1e-6

instance : Coordinate Rat where
  before a b := decide (a ≤ b)
  before_total a b := by
    rcases Rat.le_total (a := a) (b := b) with h | h <;> simp [h]
  before_trans a b c h k := by
    simp only [decide_eq_true_eq] at *
    exact Rat.le_trans h k
  close a b := decide (-(1 / 1000000) < a - b ∧ a - b < 1 / 1000000)

end BoxDiagram
