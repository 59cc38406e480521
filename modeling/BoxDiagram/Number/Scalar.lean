/-
Module: BoxDiagram.Number.Scalar
Purpose: The arithmetic that geometry needs, as an interface.  Drawings are computed with 32-bit floating
  numbers; the same definitions read at the rational numbers give the exact geometry.
Main exports: Scalar, NumberText, Float32.text
-/
import BoxDiagram.Number.Reading

namespace BoxDiagram

/-- Numbers to compute geometry with.  `larger` and `smaller` are separate from the order because on
floating numbers they prefer a number to a NaN. -/
class Scalar (α : Type) extends Add α, Sub α, Mul α, Div α, Neg α, LT α, LE α, OfScientific α where
  ofNat : Nat → α
  larger : α → α → α
  smaller : α → α → α
  magnitude : α → α
  /-- Is the first number less than the second? -/
  less : α → α → Bool
  less_iff : ∀ a b : α, less a b = true ↔ a < b
  /-- Is the first number at most the second? -/
  atMost : α → α → Bool
  atMost_iff : ∀ a b : α, atMost a b = true ↔ a ≤ b

instance Scalar.decidableLt {α : Type} [Scalar α] (a b : α) : Decidable (a < b) :=
  decidable_of_iff _ (Scalar.less_iff a b)

instance Scalar.decidableLe {α : Type} [Scalar α] (a b : α) : Decidable (a ≤ b) :=
  decidable_of_iff _ (Scalar.atMost_iff a b)

/-- How numbers are written as text and read back. -/
class NumberText (α : Type) where
  print : α → String
  read? : String → Option α

namespace Scalar

variable {α : Type} [Scalar α]

/-- Sum of a list, from the left.  It starts at the negative zero, which leaves every floating number as it
is. -/
def sum (xs : List α) : α := xs.foldl (· + ·) (-(0.0 : α))

/-- The largest element, and at least zero. -/
def maximum (xs : List α) : α := xs.foldl larger (0.0 : α)

end Scalar

/-- 32-bit floating numbers. -/
instance Float32.instScalar : Scalar Float32 where
  ofNat n := Float32.ofNat n
  larger a b := if a.isNaN then b else if b.isNaN then a else if b < a then a else b
  smaller a b := if a.isNaN then b else if b.isNaN then a else if a < b then a else b
  magnitude a := a.abs
  less a b := decide (a < b)
  less_iff _ _ := decide_eq_true_iff
  atMost a b := decide (a ≤ b)
  atMost_iff _ _ := decide_eq_true_iff

/-- Rational numbers. -/
instance Rat.instScalar : Scalar Rat where
  ofNat n := (n : Rat)
  larger a b := if b < a then a else b
  smaller a b := if a < b then a else b
  magnitude a := if a < 0 then -a else a
  less a b := decide (a < b)
  less_iff _ _ := decide_eq_true_iff
  atMost a b := decide (a ≤ b)
  atMost_iff _ _ := decide_eq_true_iff

/-- The shortest decimal that reads back to the same number, never with an exponent. -/
def printFloat32 (x : Float32) : String :=
  let bits := x.toBits.toNat
  let sign := if bits ≥ 0x80000000 then "-" else ""
  let size := bits % 0x80000000
  if x.isNaN then "NaN"
  else if size == binary32.infinityBits then sign ++ "inf"
  else if size == 0 then sign ++ "0"
  else sign ++ (shortestDecimal binary32 size).positional

instance : NumberText Float32 where
  print := printFloat32
  read? := readFloat32?

end BoxDiagram
