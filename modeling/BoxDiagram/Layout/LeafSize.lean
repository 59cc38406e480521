/-
Module: BoxDiagram.Layout.LeafSize
Purpose: Estimated sizes of texts and of boxes without others inside them.
Main exports: fullLeafSize, compactLeafSize, leafSize, labelSize
-/
import BoxDiagram.Diagram.Box
import BoxDiagram.Geometry
import BoxDiagram.Text.Split

namespace BoxDiagram

variable {α : Type} [Scalar α]

/-- Height of the shape of a compact leaf; the captions stand below it. -/
def compactShapeHeight : α := 50.0

/-- Size of a leaf with its label inside: 9 for a character and 20 for a line, with margins. -/
def fullLeafSize (label : String) : Size α :=
  let lines := Text.lines label
  ⟨Scalar.larger (Scalar.ofNat (Text.longest lines) * 9.0 + 50.0) 160.0,
    Scalar.ofNat lines.length * 20.0 + 40.0⟩

/-- Number of characters of the longest text in or below a compact leaf.  A missing name counts as ten, and
the technology is shown in brackets. -/
def compactLeafColumns (name technology description : Option String) : Nat :=
  max (max (name.elim 10 String.length) (technology.elim 0 fun t => t.length + 2))
    (description.elim 0 fun d => Text.longest (Text.lines d))

/-- Size of a compact leaf: the shape, and below it a caption for the technology and one for every line of
the description. -/
def compactLeafSize (name technology description : Option String) : Size α :=
  let shape : α := compactShapeHeight
  let height := if technology.isSome then shape + 18.0 else shape
  let height := match description with
    | some d => height + (Scalar.ofNat (Text.lines d).length * 15.0 + 4.0)
    | none => height
  ⟨Scalar.larger (Scalar.ofNat (compactLeafColumns name technology description) * 8.0 + 40.0) 150.0, height⟩

/-- Size of a box as if there were no others inside it. -/
def leafSize (t : Tree Box) : Size α :=
  let b := t.value
  if Box.isFull t then fullLeafSize b.label
  else compactLeafSize (if b.name.isEmpty then none else some b.name) b.technology b.description

/-- Size of the label of an edge: 7 for a character and 14 for a line, with margins. -/
def labelSize (text : String) : Size α :=
  let lines := Text.lines text
  ⟨Scalar.ofNat (Text.longest lines) * 7.0 + 16.0, Scalar.ofNat lines.length * 14.0 + 8.0⟩

end BoxDiagram
