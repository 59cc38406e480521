/-
Module: BoxDiagram.Diagram.Edge
Purpose: Edges between boxes, and the references by which they name their ends.
Main exports: EdgeEndpoint, EdgeEndpoint.parse, EdgeEndpoint.display, EdgeStyle, Edge
-/
import BoxDiagram.Identifier
import BoxDiagram.Text.Split

namespace BoxDiagram

/-- One end of an edge: the name of a box and, optionally, the id of one of its ports. -/
structure EdgeEndpoint where
  boxName : String
  port : Option String
deriving Repr, DecidableEq, Inhabited

namespace EdgeEndpoint

/-- Split a reference at its last colon; what follows it is a port. -/
def parse (reference : String) : EdgeEndpoint :=
  match Text.splitLast? ':' reference with
  | some (boxName, port) => ⟨boxName, some port⟩
  | none => ⟨reference, none⟩

def display (e : EdgeEndpoint) : String :=
  match e.port with
  | some port => e.boxName ++ ":" ++ port
  | none => e.boxName

def boxId (e : EdgeEndpoint) : Identifier := Identifier.ofName e.boxName

/-- Identifier of what the edge is attached to: the port if one is named, otherwise the box. -/
def nodeId (e : EdgeEndpoint) : Identifier :=
  match e.port with
  | some port => e.boxId.port port
  | none => e.boxId

end EdgeEndpoint

/-- How the line of an edge is drawn. -/
structure EdgeStyle where
  colour : Option String
  dashed : Bool
deriving Repr, DecidableEq, Inhabited

/-- A solid line of the default colour. -/
def EdgeStyle.plain : EdgeStyle := ⟨none, false⟩

/-- A directed connection. -/
structure Edge where
  source : EdgeEndpoint
  target : EdgeEndpoint
  label : Option String
  colour : Option String
  style : EdgeStyle
deriving Repr, DecidableEq, Inhabited

/-- The name of the colour of an edge; the style has precedence. -/
def Edge.colourName (e : Edge) : Option String := e.style.colour.or e.colour

end BoxDiagram
