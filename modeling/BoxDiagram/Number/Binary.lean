/-
Module: BoxDiagram.Number.Binary
Purpose: Binary floating formats as whole-number significands with an exponent, and the rounding of an
  exact quotient into such a format.
Main exports: BinaryFormat, binary32, binary64, roundHalfEven, BinaryFormat.roundQuotient,
  BinaryFormat.significand
-/
import BoxDiagram.Number.Power

namespace BoxDiagram

/-- A binary interchange format.  A positive finite number of the format is `m * 2 ^ e` with
`m < 2 ^ precision` and `minExponent ≤ e`. -/
structure BinaryFormat where
  /-- Number of significant bits, the implicit one counted. -/
  precision : Nat
  /-- Exponent of the last place of the subnormal numbers. -/
  minExponent : Int
  /-- Bit pattern of positive infinity; the patterns below it are the finite numbers in order. -/
  infinityBits : Nat
deriving Repr, DecidableEq

def binary32 : BinaryFormat := ⟨24, -149, 0x7F800000⟩

def binary64 : BinaryFormat := ⟨53, -1074, 0x7FF0000000000000⟩

/-- The whole number nearest to `num / den`; a half goes to the even neighbour. -/
def roundHalfEven (num den : Nat) : Nat :=
  let quotient := num / den
  let rest := num % den
  if 2 * rest > den || (2 * rest == den && quotient % 2 == 1) then quotient + 1 else quotient

namespace BinaryFormat

/-- The quotient `num / den` divided by `2 ^ e`, again as a quotient. -/
def scaleDown (num den : Nat) (e : Int) : Nat × Nat :=
  (num * powerOfTwo (-e).toNat, den * powerOfTwo e.toNat)

/-- The exponent at which `num / den` has `precision` bits before the point, or the least one. -/
def exponentOf (f : BinaryFormat) (num den : Nat) : Int :=
  let guess : Int := (num.log2 : Int) - (den.log2 : Int) - (f.precision : Int)
  let (n, d) := scaleDown num den guess
  max f.minExponent (if n / d < powerOfTwo f.precision then guess else guess + 1)

/-- Bit pattern of the number of the format nearest to `num / den`, ties to even; values beyond the
largest finite number become infinity.  Adding the significand to the shifted exponent lets a significand
that rounded up to `2 ^ precision` carry into the exponent. -/
def roundQuotient (f : BinaryFormat) (num den : Nat) : Nat :=
  if num == 0 || den == 0 then 0
  else
    let e := f.exponentOf num den
    let (n, d) := scaleDown num den e
    min f.infinityBits
      (roundHalfEven n d + (e - f.minExponent).toNat * powerOfTwo (f.precision - 1))

/-- Significand and exponent of the finite non-negative number with these bits. -/
def significand (f : BinaryFormat) (bits : Nat) : Nat × Int :=
  let hidden := powerOfTwo (f.precision - 1)
  let field := bits / hidden
  if field == 0 then (bits % hidden, f.minExponent)
  else (bits % hidden + hidden, f.minExponent + (field : Int) - 1)

end BinaryFormat

end BoxDiagram
