/-
Module: BoxDiagram.Document.Raw
Purpose: A diagram document as it is written, before defaults are filled in.  Every text may be missing.
Main exports: RawPort, RawBoxStyle, RawBoxFacts, RawBox, RawEdgeStyle, RawEdge, RawStyle, RawLegend,
  RawDocument
-/
import BoxDiagram.Diagram.Basic

namespace BoxDiagram

/-- A port of a box, under its id. -/
structure RawPort where
  id : String
  dir : Option String
  label : Option String
  side : Option String
deriving Repr, DecidableEq, Inhabited

/-- The style of a box. -/
structure RawBoxStyle where
  background : Option String
  colour : Option String
deriving Repr, DecidableEq, Inhabited

/-- What is said about a box itself. -/
structure RawBoxFacts where
  label : Option String
  description : Option String
  technology : Option String
  zoom : Option String
  style : Option RawBoxStyle
  ports : List RawPort
  actor : Option Bool
deriving Repr, DecidableEq, Inhabited

def RawBoxFacts.empty : RawBoxFacts := ⟨none, none, none, none, none, [], none⟩

/-- A box under its name: a bare name, or with a definition, which has the entries of its `children` and of its
`actors`. -/
inductive RawBox where
  | bare (name : String)
  | mk (name : String) (facts : RawBoxFacts) (children actors : List RawBox)
deriving Repr, Inhabited

namespace RawBox

/-- The name under which the box is entered. -/
def name : RawBox → String
  | bare name => name
  | mk name _ _ _ => name

def facts : RawBox → RawBoxFacts
  | bare _ => .empty
  | mk _ facts _ _ => facts

def children : RawBox → List RawBox
  | bare _ => []
  | mk _ _ children _ => children

def actors : RawBox → List RawBox
  | bare _ => []
  | mk _ _ _ actors => actors

end RawBox

/-- The style of an edge: a keyword, or colour and dashes. -/
inductive RawEdgeStyle where
  | keyword (word : String)
  | options (colour : Option String) (dashed : Option Bool)
deriving Repr, DecidableEq, Inhabited

/-- An edge. -/
structure RawEdge where
  source : Option String
  target : Option String
  label : Option String
  colour : Option String
  style : Option RawEdgeStyle
deriving Repr, DecidableEq, Inhabited

/-- The style of the whole diagram. -/
structure RawStyle (α : Type) where
  font : Option String
  borderWeights : Option (List α)
  backgrounds : Option (List String)
deriving Repr, DecidableEq, Inhabited

/-- The legend.  A colour name occurs once. -/
structure RawLegend where
  edgeColours : List (String × String)
  portTable : Option Bool
deriving Repr, DecidableEq, Inhabited

/-- A whole document. -/
structure RawDocument (α : Type) where
  diagram : Option String
  title : Option String
  flow : Option String
  dpi : Option Nat
  style : Option (RawStyle α)
  boxes : List RawBox
  edges : List RawEdge
  legend : Option RawLegend
  metadata : Option Metadata
deriving Repr, Inhabited

end BoxDiagram
