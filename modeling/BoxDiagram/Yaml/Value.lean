/-
Module: BoxDiagram.Yaml.Value
Purpose: The values that nodes stand for, as far as it matters whether two keys are the same.
Main exports: Value, Value.same
-/
import BoxDiagram.Yaml.Atom

namespace BoxDiagram.Yaml

/-- The value of a node. -/
inductive Value where
  | atom (a : Atom)
  | sequence (items : List Value)
  | mapping (entries : List (Value × Value))
  | tagged (name : String) (content : Value)
deriving Repr, Inhabited

def Atom.same : Atom → Atom → Bool
  | .null, .null => true
  | .bool a, .bool b => a == b
  | .number a, .number b => a.same b
  | .wide a, .wide b => a == b
  | .text a, .text b => a == b
  | _, _ => false

namespace Value

mutual

/-- Are these the same value?  The order of the entries of mappings does not count. -/
def same : Value → Value → Bool
  | atom a, atom b => a.same b
  | sequence xs, sequence ys => sameItems xs ys
  | mapping xs, mapping ys => xs.length == ys.length && within xs ys
  | tagged n a, tagged m b => n == m && same a b
  | _, _ => false

/-- Are the values of two lists the same, one by one? -/
def sameItems : List Value → List Value → Bool
  | [], [] => true
  | x :: xs, y :: ys => same x y && sameItems xs ys
  | _, _ => false

/-- Is every entry of a mapping among those of another one? -/
def within : List (Value × Value) → List (Value × Value) → Bool
  | [], _ => true
  | (k, v) :: rest, entries => (entries.any fun e => same k e.1 && same v e.2) && within rest entries

end

/-- Does the value denote a mapping, tags apart? -/
def isMapping : Value → Bool
  | mapping _ => true
  | tagged _ v => isMapping v
  | _ => false

end Value

end BoxDiagram.Yaml
