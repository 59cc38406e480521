/-
Module: BoxDiagram.Number.Shortest
Purpose: The decimal with the fewest digits that reads back as a given floating number.
Main exports: RoundingInterval, RoundingInterval.ofBits, RoundingInterval.contains, shortestDecimal,
  Decimal, Decimal.positional
-/
import BoxDiagram.Number.Binary

namespace BoxDiagram

/-- The decimal `digits * 10 ^ exponent`. -/
structure Decimal where
  digits : Nat
  exponent : Int
deriving Repr, DecidableEq, Inhabited

/-- The reals that round to one floating number, over a common denominator: `low / den` to `high / den`
around `value / den`.  The ends belong to it when the significand is even. -/
structure RoundingInterval where
  low : Nat
  value : Nat
  high : Nat
  den : Nat
  closed : Bool
deriving Repr

namespace RoundingInterval

/-- The interval of the positive finite number with these bits.  Everything is counted in quarters of the
last place, because below a power of two the spacing halves. -/
def ofBits (f : BinaryFormat) (bits : Nat) : RoundingInterval :=
  let (m, e) := f.significand bits
  let scale := powerOfTwo e.toNat
  let below := if m == powerOfTwo (f.precision - 1) && e > f.minExponent then 1 else 2
  { low := (4 * m - below) * scale
    value := 4 * m * scale
    high := (4 * m + 2) * scale
    den := 4 * powerOfTwo (-e).toNat
    closed := m % 2 == 0 }

/-- Does `digits * 10 ^ exponent` lie in the interval?  Both sides are brought over one denominator. -/
def contains (i : RoundingInterval) (d : Decimal) : Bool :=
  let point := d.digits * powerOfTen d.exponent.toNat * i.den
  let unit := powerOfTen (-d.exponent).toNat
  if i.closed then i.low * unit ≤ point && point ≤ i.high * unit
  else i.low * unit < point && point < i.high * unit

/-- The largest `digits` with `digits * 10 ^ exponent` at most the value. -/
def floorAt (i : RoundingInterval) (exponent : Int) : Nat :=
  (i.value * powerOfTen (-exponent).toNat) / (i.den * powerOfTen exponent.toNat)

/-- On the grid of multiples of `10 ^ exponent`, the neighbour of the value that lies in the interval; of
two such neighbours the nearer one, and the upper one if they are equally near. -/
def nearestOn (i : RoundingInterval) (exponent : Int) : Option Decimal :=
  let below : Decimal := ⟨i.floorAt exponent, exponent⟩
  let above : Decimal := ⟨below.digits + 1, exponent⟩
  match i.contains below, i.contains above with
  | true, true =>
      let doubled := 2 * i.value * powerOfTen (-exponent).toNat
      let middle := (2 * below.digits + 1) * powerOfTen exponent.toNat * i.den
      some (if doubled < middle then below else above)
  | true, false => some below
  | false, true => some above
  | false, false => none

end RoundingInterval

/-- Search the grids from coarse to fine; the first grid with a point in the interval gives the fewest
digits. -/
def firstGrid (i : RoundingInterval) (start : Int) : Nat → Decimal
  | 0 => ⟨i.floorAt start, start⟩
  | fuel + 1 =>
      match i.nearestOn start with
      | some d => d
      | none => firstGrid i (start - 1) fuel

/-- Number of decimal digits of `n`, and 1 for zero. -/
def decimalLength (n : Nat) : Nat := (Nat.toDigits 10 n).length

/-- Drop the zeros at the end of the digits. -/
def Decimal.normalise (d : Decimal) : Decimal :=
  let rec strip (digits : Nat) (exponent : Int) : Nat → Decimal
    | 0 => ⟨digits, exponent⟩
    | fuel + 1 =>
        if digits != 0 && digits % 10 == 0 then strip (digits / 10) (exponent + 1) fuel
        else ⟨digits, exponent⟩
  strip d.digits d.exponent (decimalLength d.digits)

/-- The shortest decimal of the positive finite number with these bits, without trailing zeros.  The search
starts one place above the leading digit, and seventeen digits always suffice for the formats here. -/
def shortestDecimal (f : BinaryFormat) (bits : Nat) : Decimal :=
  let i := RoundingInterval.ofBits f bits
  let start : Int := (decimalLength i.value : Int) - (decimalLength i.den : Int) + 1
  (firstGrid i start 20).normalise

/-- The digits written without an exponent: `150`, `0.1`, `0.0000001`. -/
def Decimal.positional (d : Decimal) : String :=
  let digits := Nat.toDigits 10 d.digits
  if 0 ≤ d.exponent then String.ofList (digits ++ List.replicate d.exponent.toNat '0')
  else
    let places := (-d.exponent).toNat
    let padded := List.replicate (places + 1 - digits.length) '0' ++ digits
    let whole := padded.length - places
    String.ofList (padded.take whole ++ ['.'] ++ padded.drop whole)

end BoxDiagram
