/-
Module: BoxDiagram.Diagram.Validation
Purpose: What keeps a diagram from being laid out and drawn.
Main exports: EndpointProblem, ValidationError, ValidationError.message, Diagram.validate
-/
import BoxDiagram.Diagram.Basic

namespace BoxDiagram

/-- Why an end of an edge names nothing. -/
inductive EndpointProblem where
  | missing
  | unknownBox (name : String)
  | unknownPort (boxName port : String)
deriving Repr, DecidableEq, Inhabited

/-- The text of a problem with an end of an edge. -/
def EndpointProblem.text : EndpointProblem → String
  | missing => "missing box reference"
  | unknownBox name => "unknown box \"" ++ name ++ "\""
  | unknownPort boxName port => "box \"" ++ boxName ++ "\" has no port \"" ++ port ++ "\""

/-- One of the two ends of an edge. -/
inductive EdgeEnd where
  | source
  | target
deriving Repr, DecidableEq, Inhabited

def EdgeEnd.word : EdgeEnd → String
  | source => "from"
  | target => "to"

/-- A fault of a diagram. -/
inductive ValidationError where
  | missingName
  | unknownFlow (word : String)
  | unknownPortDirection (boxName port word : String)
  | sharedId (first second id : String)
  | badEndpoint (edge : Nat) (which : EdgeEnd) (reference : String) (problem : EndpointProblem)
deriving Repr, DecidableEq, Inhabited

def ValidationError.message : ValidationError → String
  | missingName => "Missing required field: \"diagram\""
  | unknownFlow word =>
      "Invalid flow direction: \"" ++ word ++ "\" (must be one of: " ++
        Text.joinWith ", " FlowDirection.knownWords ++ ")"
  | unknownPortDirection boxName port word =>
      "Box \"" ++ boxName ++ "\", port \"" ++ port ++ "\": invalid dir \"" ++ word ++
        "\" (must be one of: in, out)"
  | sharedId first second id =>
      "Boxes \"" ++ first ++ "\" and \"" ++ second ++ "\" share the id \"" ++ id ++ "\""
  | badEndpoint edge which reference problem =>
      "Edge " ++ toString edge ++ " (" ++ which.word ++ " \"" ++ reference ++ "\"): " ++ problem.text

namespace Diagram

variable {α : Type}

def nameErrors (d : Diagram α) : List ValidationError :=
  if d.name.all Text.isBlankText then [.missingName] else []

def flowErrors (d : Diagram α) : List ValidationError :=
  match d.flow with
  | .unknown word => [.unknownFlow word]
  | _ => []

/-- Every port has to be an input or an output. -/
def portErrors (boxes : List Box) : List ValidationError :=
  boxes.flatMap fun b => b.ports.filterMap fun p =>
    match p.direction with
    | .unknown word => some (.unknownPortDirection b.name p.id word)
    | _ => none

/-- No box may have the identifier of one of those before it, which are given with the first box first. -/
def idErrors : List Box → List Box → List ValidationError
  | _, [] => []
  | before, b :: rest =>
      match before.find? fun a => a.id = b.id with
      | some a => .sharedId a.name b.name b.id.text :: idErrors before rest
      | none => idErrors (before ++ [b]) rest

/-- What is wrong with an end of an edge. -/
def endpointProblem? (index : BoxIndex) (e : EdgeEndpoint) : Option EndpointProblem :=
  if Text.isBlankText e.boxName then some .missing
  else
    match index.get? e.boxId.text with
    | none => some (.unknownBox e.boxName)
    | some t =>
        match e.port with
        | some port => if (t.value.port? port).isNone then some (.unknownPort t.value.name port) else none
        | none => none

/-- Both ends of every edge have to name a box, and a port of it if they name one. -/
def edgeErrors (d : Diagram α) : List ValidationError :=
  let index := BoxIndex.ofForest d.boxes
  d.edges.zipIdx.flatMap fun (e, i) =>
    [(EdgeEnd.source, e.source), (.target, e.target)].filterMap fun (which, endpoint) =>
      (endpointProblem? index endpoint).map (.badEndpoint i which endpoint.display)

/-- All faults of a diagram; a diagram without faults can be laid out and drawn. -/
def validate (d : Diagram α) : List ValidationError :=
  let boxes := d.allBoxes.map Tree.value
  d.nameErrors ++ d.flowErrors ++ portErrors boxes ++ idErrors [] boxes ++ d.edgeErrors

end Diagram

end BoxDiagram
