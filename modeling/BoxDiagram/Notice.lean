/-
Module: BoxDiagram.Notice
Purpose: Things that are passed over on the way from a document to a drawing, and that an author may want to
  know of.
Main exports: Notice, Notice.message, Notice.fields
-/

namespace BoxDiagram

/-- Something that was passed over. -/
inductive Notice where
  | unknownSide (boxName port side : String)
  | unknownEdgeStyle (source target style : String)
  | edgeWithoutEndpoints (edge : String)
  | unresolvedEndpoint (edge source target : String)
  | unknownColour (name : String)
deriving Repr, DecidableEq, Inhabited

namespace Notice

def message : Notice → String
  | unknownSide _ _ _ => "Ignoring unrecognised port side"
  | unknownEdgeStyle _ _ _ => "Unknown edge style, drawing solid"
  | edgeWithoutEndpoints _ => "Skipping edge without endpoints"
  | unresolvedEndpoint _ _ _ => "Skipping edge with unresolved endpoint"
  | unknownColour _ => "Unknown colour name, using it verbatim"

def fields : Notice → List (String × String)
  | unknownSide boxName port side => [("box_name", boxName), ("port", port), ("side", side)]
  | unknownEdgeStyle source target style => [("from", source), ("to", target), ("style", style)]
  | edgeWithoutEndpoints edge => [("edge", edge)]
  | unresolvedEndpoint edge source target => [("edge", edge), ("source", source), ("target", target)]
  | unknownColour name => [("name", name)]

end Notice

end BoxDiagram
