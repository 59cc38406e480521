/-
Module: BoxDiagram.Text.Blank
Purpose: White space, and cutting texts at it.
Main exports: isBlank, trimList, trim, isBlankText
-/

namespace BoxDiagram.Text

/-- The characters with the Unicode property `White_Space`. -/
def isBlank (c : Char) : Bool :=
  let n := c.toNat
  (9 ≤ n && n ≤ 13) || n == 32 || n == 0x85 || n == 0xA0 || n == 0x1680 ||
    (0x2000 ≤ n && n ≤ 0x200A) || n == 0x2028 || n == 0x2029 || n == 0x202F || n == 0x205F || n == 0x3000

def trimEndList (cs : List Char) : List Char := (cs.reverse.dropWhile isBlank).reverse

def trimList (cs : List Char) : List Char := trimEndList (cs.dropWhile isBlank)

/-- Drop the blanks at both ends of a text. -/
def trim (s : String) : String := String.ofList (trimList s.toList)

def isBlankText (s : String) : Bool := s.toList.all isBlank

end BoxDiagram.Text
