/-
Module: BoxDiagram.Text.Digit
Purpose: Digits of bases up to sixteen.
Main exports: digit?, readDigits?
-/

namespace BoxDiagram.Text

/-- The value of a digit of base sixteen. -/
def digit? (c : Char) : Option Nat :=
  if '0' ≤ c ∧ c ≤ '9' then some (c.toNat - '0'.toNat)
  else if 'a' ≤ c ∧ c ≤ 'f' then some (c.toNat - 'a'.toNat + 10)
  else if 'A' ≤ c ∧ c ≤ 'F' then some (c.toNat - 'A'.toNat + 10)
  else none

/-- The value of digits of a base up to sixteen; there has to be at least one. -/
def readDigits? (base : Nat) (cs : List Char) : Option Nat :=
  if cs.isEmpty then none
  else cs.foldlM (fun n c => (digit? c).bind fun d => if d < base then some (n * base + d) else none) 0

end BoxDiagram.Text
