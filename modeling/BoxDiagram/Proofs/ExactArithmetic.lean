/-
Module: BoxDiagram.Proofs.ExactArithmetic
Purpose: The arithmetic of geometry read at the rational numbers: greatest elements, sums, and the length of things
  that stand in a row with gaps between them.
Main exports: Scalar.larger_eq_max, Scalar.sum_eq, Scalar.le_maximum, Scalar.half_bounds, rowLength, rowLength_cons
-/
import BoxDiagram.Layout.Placement
import BoxDiagram.Proofs.ExactNumbers
import Mathlib.Algebra.Order.BigOperators.Group.List
import Mathlib.Algebra.Order.Ring.Rat
import Mathlib.Tactic.Linarith
import Mathlib.Tactic.NormNum
import Mathlib.Tactic.Ring

namespace BoxDiagram

namespace Scalar

theorem larger_eq_max (a b : ℚ) : larger a b = max a b := ExactNumbers.larger_eq_max a b

theorem magnitude_eq_abs (a : ℚ) : magnitude a = |a| := by
  have cases : magnitude a = if a < 0 then -a else a := rfl
  rw [cases]
  split
  · rename_i negative
    rw [abs_of_neg negative]
  · rename_i nonneg
    rw [abs_of_nonneg (not_lt.mp nonneg)]

theorem zero_eq : (0.0 : ℚ) = 0 := by norm_num

theorem sum_eq (xs : List ℚ) : sum xs = xs.sum := ExactNumbers.sum_eq xs

/-- The greatest element is found by going through the list, so the induction runs over every number that the
elements before may have left. -/
theorem foldl_larger_bounds (xs : List ℚ) (start : ℚ) :
    start ≤ xs.foldl larger start ∧ ∀ x ∈ xs, x ≤ xs.foldl larger start := by
  induction xs generalizing start with
  | nil => exact ⟨le_refl _, fun x mem => absurd mem List.not_mem_nil⟩
  | cons y ys ih =>
      rw [List.foldl_cons]
      obtain ⟨fromStart, fromRest⟩ := ih (larger start y)
      rw [larger_eq_max] at fromStart fromRest ⊢
      refine ⟨(le_max_left _ _).trans fromStart, ?_⟩
      intro x mem
      rcases List.mem_cons.mp mem with rfl | later
      · exact (le_max_right _ _).trans fromStart
      · exact fromRest x later

theorem le_maximum {xs : List ℚ} {x : ℚ} (mem : x ∈ xs) : x ≤ maximum xs :=
  (foldl_larger_bounds xs _).2 x mem

theorem maximum_nonneg (xs : List ℚ) : 0 ≤ maximum xs :=
  calc (0 : ℚ) = 0.0 := zero_eq.symm
    _ ≤ maximum xs := (foldl_larger_bounds xs _).1

/-- What is left on one side when a space is halved is no more than the space. -/
theorem half_bounds {space : ℚ} (nonneg : 0 ≤ space) : 0 ≤ space / 2.0 ∧ space / 2.0 ≤ space := by
  have half : space / 2.0 = space / 2 := by norm_num
  rw [half]
  constructor <;> linarith

end Scalar

/-! ### Numbers as text -/

/-- The number that a finite numeral denotes. -/
def Numeral.exact? : Numeral → Option ℚ
  | .finite negative digits exponent =>
      let size : ℚ := (digits * 10 ^ exponent.toNat : ℕ) / (10 ^ (-exponent).toNat : ℕ)
      some (if negative then -size else size)
  | _ => none

/-- Numerals are read exactly, and a number is written as a fraction. -/
instance : NumberText ℚ where
  print := toString
  read? text := (Numeral.read? text).bind Numeral.exact?

/-! ### Things in a row -/

theorem gaps_eq (gap : ℚ) (count : ℕ) : gaps gap count = gap * ((count - 1 : ℕ) : ℚ) := rfl

/-- The length of things in a row with `gap` between neighbours. -/
def rowLength (gap : ℚ) (lengths : List ℚ) : ℚ := Scalar.sum lengths + gaps gap lengths.length

/-- Every further thing adds its length and a gap. -/
theorem rowLength_cons {gap x : ℚ} {xs : List ℚ} (more : xs ≠ []) :
    rowLength gap (x :: xs) = x + (gap + rowLength gap xs) := by
  have positive : 1 ≤ xs.length := List.length_pos_iff.mpr more
  rw [rowLength, rowLength, Scalar.sum_eq, Scalar.sum_eq, gaps_eq, gaps_eq, List.sum_cons, List.length_cons,
    Nat.add_sub_cancel, Nat.cast_sub positive]
  ring

theorem rowLength_singleton (gap x : ℚ) : rowLength gap [x] = x := by
  rw [rowLength, Scalar.sum_eq, gaps_eq, List.sum_singleton, List.length_singleton]
  norm_num

theorem rowLength_nonneg {gap : ℚ} {xs : List ℚ} (gapNonneg : 0 ≤ gap) (nonneg : ∀ x ∈ xs, 0 ≤ x) :
    0 ≤ rowLength gap xs := by
  rw [rowLength, Scalar.sum_eq, gaps_eq]
  exact add_nonneg (List.sum_nonneg nonneg) (mul_nonneg gapNonneg (Nat.cast_nonneg _))

end BoxDiagram
