/-
Module: BoxDiagram.Text.Split
Purpose: Cutting texts into pieces at a character.
Main exports: splitOn, lines, splitFirst?, splitLast?, joinWith, characterCount
-/

namespace BoxDiagram.Text

/-- Cut a list at every occurrence of `sep`.  There is always one piece more than there are separators. -/
def splitList (sep : Char) : List Char → List (List Char)
  | [] => [[]]
  | c :: rest =>
      if c = sep then [] :: splitList sep rest
      else
        match splitList sep rest with
        | [] => [[c]]
        | piece :: pieces => (c :: piece) :: pieces

/-- Cut a text at every occurrence of `sep`. -/
def splitOn (sep : Char) (s : String) : List String :=
  (splitList sep s.toList).map String.ofList

/-- The lines of a text.  A text without a line feed is one line, and so is the empty text. -/
def lines (s : String) : List String := splitOn '\n' s

/-- The parts before and after the first occurrence of `sep`. -/
def splitFirstList? (sep : Char) : List Char → Option (List Char × List Char)
  | [] => none
  | c :: rest =>
      if c = sep then some ([], rest)
      else (splitFirstList? sep rest).map fun (before, after) => (c :: before, after)

/-- The parts before and after the first occurrence of `sep` in a text. -/
def splitFirst? (sep : Char) (s : String) : Option (String × String) :=
  (splitFirstList? sep s.toList).map fun (before, after) => (String.ofList before, String.ofList after)

/-- The parts before and after the last occurrence of `sep`. -/
def splitLastList? (sep : Char) : List Char → Option (List Char × List Char)
  | [] => none
  | c :: rest =>
      match splitLastList? sep rest with
      | some (before, after) => some (c :: before, after)
      | none => if c = sep then some ([], rest) else none

/-- The parts before and after the last occurrence of `sep` in a text. -/
def splitLast? (sep : Char) (s : String) : Option (String × String) :=
  (splitLastList? sep s.toList).map fun (before, after) => (String.ofList before, String.ofList after)

/-- The pieces with `sep` between neighbours. -/
def joinWith (sep : String) : List String → String
  | [] => ""
  | [s] => s
  | s :: t :: rest => s ++ sep ++ joinWith sep (t :: rest)

/-- Number of characters of the longest text of a list, and 0 for none. -/
def longest (texts : List String) : Nat := texts.foldl (fun n s => max n s.length) 0

end BoxDiagram.Text
