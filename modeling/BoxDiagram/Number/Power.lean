/-
Module: BoxDiagram.Number.Power
Purpose: Powers of the two bases that numbers are written in.
Main exports: powerOfTwo, powerOfTen
-/

namespace BoxDiagram

/-- Two to a power; the number of words of so many bits. -/
def powerOfTwo (n : Nat) : Nat := Nat.pow 2 n

def powerOfTen (n : Nat) : Nat := Nat.pow 10 n

end BoxDiagram
