/-
Module: BoxDiagram.Diagram.Vocabulary
Purpose: The keywords of a diagram: flow directions, port directions and port sides.
Main exports: FlowDirection, PortDirection, PortSide
-/
import BoxDiagram.Text.Blank

namespace BoxDiagram

/-- The direction in which edges mostly run.  An unknown word is kept, so that validation can show it. -/
inductive FlowDirection where
  | leftToRight
  | rightToLeft
  | topToBottom
  | bottomToTop
  | unknown (word : String)
deriving Repr, DecidableEq, Inhabited

namespace FlowDirection

def ofWord : String → FlowDirection
  | "LR" => leftToRight
  | "RL" => rightToLeft
  | "TB" => topToBottom
  | "BT" => bottomToTop
  | word => unknown word

/-- The word as it stands in a document. -/
def word : FlowDirection → String
  | leftToRight => "LR"
  | rightToLeft => "RL"
  | topToBottom => "TB"
  | bottomToTop => "BT"
  | unknown w => w

/-- The known words, in the order in which reports list them. -/
def knownWords : List String := ["LR", "TB", "RL", "BT"]

/-- Is this one of the four directions? -/
def isKnown : FlowDirection → Bool
  | unknown _ => false
  | _ => true

def isHorizontal : FlowDirection → Bool
  | leftToRight | rightToLeft => true
  | _ => false

end FlowDirection

/-- The direction of a port, seen from its box. -/
inductive PortDirection where
  | input
  | output
  | unknown (word : String)
deriving Repr, DecidableEq, Inhabited

namespace PortDirection

def ofWord : String → PortDirection
  | "in" => input
  | "out" => output
  | word => unknown word

/-- The word as it stands in a document. -/
def word : PortDirection → String
  | input => "in"
  | output => "out"
  | unknown w => w

def isKnown : PortDirection → Bool
  | unknown _ => false
  | _ => true

/-- The tag in the port table of the legend. -/
def tag : PortDirection → String
  | input => "IN"
  | output | unknown _ => "OUT"

end PortDirection

/-- A side of a box. -/
inductive PortSide where
  | north
  | south
  | east
  | west
deriving Repr, DecidableEq, Inhabited

namespace PortSide

/-- The name of the side in a document. -/
def word : PortSide → String
  | north => "north"
  | south => "south"
  | east => "east"
  | west => "west"

/-- The name of the side as the value of a layout option. -/
def optionValue : PortSide → String
  | north => "NORTH"
  | south => "SOUTH"
  | east => "EAST"
  | west => "WEST"

/-- Read the name of a side in any case, with blanks around it. -/
def ofWord? (text : String) : Option PortSide :=
  match String.ofList ((Text.trimList text.toList).map Char.toLower) with
  | "north" => some north
  | "south" => some south
  | "east" => some east
  | "west" => some west
  | _ => none

end PortSide

end BoxDiagram
