/-
Module: BoxDiagram.Layout.Ports
Purpose: Ports on the boundary of their node.
Main exports: placePorts, portCenter
-/
import BoxDiagram.Layout.Positioned

namespace BoxDiagram

variable {α : Type} [Scalar α]

/-- The point at a fraction of a side of a node of this size, relative to the node. -/
def portCenter (side : PortSide) (size : Size α) (along : α) : Point α :=
  match side with
  | .north => ⟨size.width * along, 0.0⟩
  | .south => ⟨size.width * along, size.height⟩
  | .west => ⟨0.0, size.height * along⟩
  | .east => ⟨size.width, size.height * along⟩

def countOnSide (side : PortSide) (ports : List (LayoutPort α)) : Nat :=
  ports.countP fun p => p.side = side

/-- The place of a port that comes after the ports `earlier` of a node with the ports `all`. -/
def placePort (all earlier : List (LayoutPort α)) (size : Size α) (p : LayoutPort α) : PositionedPort α :=
  let along := Scalar.ofNat (countOnSide p.side earlier + 1) / Scalar.ofNat (countOnSide p.side all + 1)
  let center := portCenter p.side size along
  { id := p.id
    x := center.x - p.width / 2.0
    y := center.y - p.height / 2.0
    width := p.width
    height := p.height }

/-- The ports of a node, spread evenly along their sides in the order of the list, with their middles on the
boundary. -/
def placePorts (ports : List (LayoutPort α)) (size : Size α) : List (PositionedPort α) :=
  ports.zipIdx.map fun (p, i) => placePort ports (ports.take i) size p

end BoxDiagram
