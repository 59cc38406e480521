/-
Module: BoxDiagram.Proofs.ExactNumbers
Purpose: Geometry with exact numbers, which may be those of any ordered field, and with distances of which nothing is
  known but that they tell points apart.
Main exports: ExactNumbers.scalar, ExactNumbers.scalar_rat, ExactNumbers.larger_eq_max, ExactNumbers.sum_eq,
  Point.lerp_swap, Metric.Separating
-/
import BoxDiagram.Geometry
import Mathlib.Algebra.Order.BigOperators.Group.List
import Mathlib.Algebra.Order.Field.Basic
import Mathlib.Tactic.NormNum
import Mathlib.Tactic.Ring

namespace BoxDiagram

/-! ### The arithmetic of an ordered field -/

-- The operations of a field are found as its own, and not again through the interface.  This holds in one file only, so it
-- is repeated where the numbers are used.
attribute [-instance] Scalar.toAdd Scalar.toSub Scalar.toMul Scalar.toDiv Scalar.toNeg Scalar.toLT Scalar.toLE
  Scalar.toOfScientific

namespace ExactNumbers

/-- The numbers of an ordered field, to compute geometry with. -/
scoped instance (priority := low) scalar (K : Type) [Field K] [LinearOrder K] : Scalar K where
  toOfScientific := inferInstance
  ofNat n := (n : K)
  larger a b := if b < a then a else b
  smaller a b := if a < b then a else b
  magnitude a := if a < 0 then -a else a
  less a b := decide (a < b)
  less_iff _ _ := decide_eq_true_iff
  atMost a b := decide (a ≤ b)
  atMost_iff _ _ := decide_eq_true_iff

/-- On the rational numbers this is the exact arithmetic that geometry has there. -/
theorem scalar_rat : scalar ℚ = Rat.instScalar := rfl

variable {K : Type} [Field K] [LinearOrder K]

@[simp] theorem ofNat_eq (n : ℕ) : (Scalar.ofNat n : K) = n := rfl

theorem smaller_eq_min (a b : K) : Scalar.smaller a b = min a b := by
  rw [min_def_lt]
  rfl

theorem larger_eq_max (a b : K) : Scalar.larger a b = max a b := by
  rw [max_comm, max_def_lt]
  rfl

variable [IsStrictOrderedRing K]

theorem zero_eq : (0.0 : K) = 0 := by norm_num

theorem two_eq : (2.0 : K) = 2 := by norm_num

theorem sum_eq (xs : List K) : Scalar.sum xs = xs.sum := by
  rw [Scalar.sum, List.sum_eq_foldl, zero_eq, neg_zero]

end ExactNumbers

open scoped ExactNumbers

/-! ### Points of a segment -/

theorem Point.eq_of_coordinates {α : Type} {p q : Point α} (x : p.x = q.x) (y : p.y = q.y) : p = q := by
  cases p
  cases q
  exact congrArg₂ mk x y

section Points

variable {K : Type} [Field K] [LinearOrder K]

namespace Point

@[simp] theorem lerp_zero (p q : Point K) : p.lerp q 0 = p :=
  eq_of_coordinates (by simp [lerp]) (by simp [lerp])

@[simp] theorem lerp_one (p q : Point K) : p.lerp q 1 = q :=
  eq_of_coordinates (by simp [lerp]) (by simp [lerp])

/-- A segment run through from its other end. -/
theorem lerp_swap (p q : Point K) (t : K) : p.lerp q t = q.lerp p (1 - t) := by
  apply eq_of_coordinates
  · simp only [lerp]
    ring
  · simp only [lerp]
    ring

end Point

/-! ### Distances -/

/-- All that is asked of distances: different points are some way apart, and no point is apart from itself. -/
structure Metric.Separating (K : Type) [Field K] [LinearOrder K] [Metric K] : Prop where
  pos : ∀ {p q : Point K}, p ≠ q → 0 < distance p q
  self : ∀ p : Point K, distance p p = 0

namespace Metric.Separating

variable [Metric K] {p q : Point K}

theorem nonneg (separating : Separating K) (p q : Point K) : 0 ≤ distance p q := by
  rcases eq_or_ne p q with rfl | differ
  · exact (separating.self p).ge
  · exact (separating.pos differ).le

theorem eq_zero_iff (separating : Separating K) : distance p q = 0 ↔ p = q := by
  constructor
  · intro none
    by_contra differ
    exact (separating.pos differ).ne' none
  · rintro rfl
    exact separating.self p

theorem pos_of_ne_zero (separating : Separating K) (some : distance p q ≠ 0) : 0 < distance p q :=
  lt_of_le_of_ne (separating.nonneg p q) some.symm

end Metric.Separating

end Points

end BoxDiagram
