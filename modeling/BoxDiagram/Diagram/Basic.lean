/-
Module: BoxDiagram.Diagram.Basic
Purpose: Diagrams: a forest of boxes, edges between them, and how all of it is presented.
Main exports: StyleDefaults, Legend, Metadata, PortEntry, Diagram, BoxIndex
-/
import BoxDiagram.Diagram.Box
import BoxDiagram.Diagram.Edge
import BoxDiagram.Number.Scalar

namespace BoxDiagram

/-- Style of the whole diagram.  The lists go by nesting depth, and the last entry serves all deeper boxes. -/
structure StyleDefaults (α : Type) where
  font : String
  borderWeights : List α
  backgrounds : List String
deriving Repr

namespace StyleDefaults

variable {α : Type}

/-- The entry for a depth, or `fallback` if there are no entries. -/
def atDepth {β : Type} (entries : List β) (fallback : β) (depth : Nat) : β :=
  match entries[depth]? with
  | some entry => entry
  | none => entries.getLastD fallback

def borderWeight [Scalar α] (s : StyleDefaults α) (depth : Nat) : α := atDepth s.borderWeights 1.0 depth

def background (s : StyleDefaults α) (depth : Nat) : String := atDepth s.backgrounds "white" depth

/-- The style of a diagram that declares none. -/
def plain [Scalar α] : StyleDefaults α := ⟨"Helvetica", [3.0], ["white"]⟩

end StyleDefaults

/-- What the legend explains. -/
structure Legend where
  /-- Colour names with their descriptions, in order; a name occurs once. -/
  edgeColours : List (String × String)
  /-- Is every port listed? -/
  portTable : Bool
deriving Repr, DecidableEq, Inhabited

/-- The facts about a document that stand below its title. -/
structure Metadata where
  author : Option String
  date : Option String
  version : Option String
  status : Option String
  scope : Option String
deriving Repr, DecidableEq, Inhabited

namespace Metadata

def isEmpty (m : Metadata) : Bool :=
  m.author.isNone && m.date.isNone && m.version.isNone && m.status.isNone && m.scope.isNone

def summary (m : Metadata) : String :=
  Text.joinWith " | "
    ([m.status, m.version.map ("v" ++ ·), m.author, m.date, m.scope].filterMap (·))

end Metadata

/-- A port in the port table of the legend. -/
structure PortEntry where
  boxName : String
  label : String
  direction : PortDirection
deriving Repr, DecidableEq, Inhabited

/-- A box diagram.  Line widths are numbers of the arithmetic the diagram is drawn with. -/
structure Diagram (α : Type) where
  name : Option String
  title : Option String
  flow : FlowDirection
  dpi : Nat
  style : StyleDefaults α
  boxes : List (Tree Box)
  /-- Names of all actors at any depth. -/
  actors : List String
  edges : List Edge
  legend : Legend
  metadata : Option Metadata
deriving Repr

namespace Diagram

variable {α : Type}

/-- Resolution of a diagram that states none. -/
def defaultDpi : Nat := 150

/-- All boxes with what is inside them, outer boxes first. -/
def allBoxes (d : Diagram α) : List (Tree Box) := Tree.visit d.boxes

def allPorts (d : Diagram α) : List PortEntry :=
  d.allBoxes.flatMap fun t => t.value.ports.map fun p => ⟨t.value.name, p.label, p.direction⟩

end Diagram

/-- Boxes by identifier.  If several boxes share one, the last of them counts. -/
structure BoxIndex where
  boxes : List (Tree Box)

namespace BoxIndex

/-- The index of all boxes of a forest. -/
def ofForest (roots : List (Tree Box)) : BoxIndex := ⟨Tree.visit roots⟩

def get? (i : BoxIndex) (id : String) : Option (Tree Box) :=
  i.boxes.reverse.find? fun t => t.value.id.text = id

/-- The identifiers that occur, each once. -/
def ids (i : BoxIndex) : List String := (i.boxes.map fun t => t.value.id.text).eraseDups

def size (i : BoxIndex) : Nat := i.ids.length

end BoxIndex

end BoxDiagram
