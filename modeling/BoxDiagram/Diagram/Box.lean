/-
Module: BoxDiagram.Diagram.Box
Purpose: Boxes and their ports.
Main exports: Port, BoxStyle, Box, Box.id, Box.isFull
-/
import BoxDiagram.Diagram.Vocabulary
import BoxDiagram.Identifier
import BoxDiagram.Tree

namespace BoxDiagram

/-- A named point on a box to which edges can be attached. -/
structure Port where
  id : String
  direction : PortDirection
  /-- The text to show, if it is not the id. -/
  label? : Option String
  /-- The side the port is pinned to. -/
  side : Option PortSide
deriving Repr, DecidableEq, Inhabited

def Port.label (p : Port) : String := p.label?.getD p.id

/-- Fill and line colour of one box. -/
structure BoxStyle where
  background : Option String
  colour : Option String
deriving Repr, DecidableEq, Inhabited

/-- A box without regard to the boxes inside it; those are its children in a tree. -/
structure Box where
  name : String
  label? : Option String
  description : Option String
  technology : Option String
  /-- Number of boxes around it. -/
  depth : Nat
  /-- Name of a diagram that shows the box in more detail. -/
  zoom : Option String
  style : BoxStyle
  ports : List Port
  isActor : Bool
deriving Repr, DecidableEq, Inhabited

namespace Box

/-- The identifier of a box is that of its name. -/
def id (b : Box) : Identifier := Identifier.ofName b.name

def label (b : Box) : String := b.label?.getD b.name

def port? (b : Box) (portId : String) : Option Port := b.ports.find? fun p => p.id = portId

/-- A leaf is drawn in full, with its label inside the shape, when it has a label of several lines other than
its name.  All other leaves are compact. -/
def isFull (t : Tree Box) : Bool :=
  !t.isCompound &&
    match t.value.label? with
    | some label => label != t.value.name && label.toList.contains '\n'
    | none => false

end Box

end BoxDiagram
