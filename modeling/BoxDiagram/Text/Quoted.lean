/-
Module: BoxDiagram.Text.Quoted
Purpose: Texts between double quotes, with escapes for what could not be told by sight.
Main exports: isInvisible, quoted
-/
import BoxDiagram.Text.InvisibleTable

namespace BoxDiagram.Text

/-- Is the character one that cannot be told by sight? -/
def isInvisible (c : Char) : Bool := invisibleRanges.any fun r => r.1 ≤ c.toNat && c.toNat ≤ r.2

def quotedChar (c : Char) : List Char :=
  match c with
  | '"' => ['\\', '"']
  | '\\' => ['\\', '\\']
  | '\n' => ['\\', 'n']
  | '\r' => ['\\', 'r']
  | '\t' => ['\\', 't']
  | '\x00' => ['\\', '0']
  | c => if isInvisible c then '\\' :: 'u' :: '{' :: Nat.toDigits 16 c.toNat ++ ['}'] else [c]

def quoted (s : String) : String := String.ofList ('"' :: s.toList.flatMap quotedChar ++ ['"'])

end BoxDiagram.Text
