/-
Module: BoxDiagram.Rendering
Purpose: The way from the text of a document to its drawing, with a configuration and a layout engine.
Main exports: Renderer, Renderer.parse, Renderer.check, Renderer.request, Renderer.place, Renderer.drawing,
  Renderer.svg, Renderer.notices
-/
import BoxDiagram.Diagram.Validation
import BoxDiagram.Drawing.Canvas
import BoxDiagram.Failure
import BoxDiagram.Layout.Engine
import BoxDiagram.Layout.Request

namespace BoxDiagram

/-- Everything a drawing depends on besides the document. -/
structure Renderer (α : Type) where
  config : AppConfig α
  engine : LayoutEngine α

/-- The notice that tells of an edge without a route. -/
def RoutingFault.notice : RoutingFault → Notice
  | noEndpoints edge => .edgeWithoutEndpoints edge
  | unresolved edge source target => .unresolvedEndpoint edge source target

/-- The diagram in a text, with a reader of raw documents.  A failure keeps the text. -/
def loadDiagram (read : String → Except ParseFault (RawDocument Float32)) (source : String) :
    Except Failure (Diagram Float32) :=
  (parseDiagram read source).mapError fun fault => .parse fault source

/-- Passes for a diagram without faults only. -/
def Diagram.check {α : Type} (d : Diagram α) : Except Failure Unit :=
  match d.validate with
  | [] => .ok ()
  | errors => .error (.validation (errors.map ValidationError.message))

namespace Renderer

variable {α : Type} [Scalar α] [NumberText α]

def request (r : Renderer α) (d : Diagram α) : LayoutGraph α := layoutRequest d r.config.layout

/-- The layout of a diagram, which is not checked before. -/
def place (r : Renderer α) (d : Diagram α) : Except Failure (PositionedGraph α) :=
  (r.engine.layout (r.request d)).mapError Failure.layout

/-- The look of drawings: the spacings and colours of the configuration. -/
def style (r : Renderer α) : Except Failure (DrawingStyle α) := do
  let table ← r.config.style.colourTable.mapError fun fault => .config fault.message
  let edgeColour ← r.config.style.edgeColour.mapError fun fault => .config fault.message
  return .of r.config.layout table edgeColour.text

variable [Metric α]

/-- The drawing of a diagram.  Its faults are reported before those of the configuration, and these before a
failure of the layout. -/
def drawing (r : Renderer α) (d : Diagram α) : Except Failure (Drawing α) := do
  d.check
  let style ← r.style
  let placed ← r.place d
  return draw d style placed

/-- The drawing of a diagram as an SVG text. -/
def svg (r : Renderer α) (d : Diagram α) : Except Failure String :=
  (r.drawing d).map fun drawing => drawing.toSvg.render

/-- What is passed over between the layout of a diagram and a drawing of it in these colours: the edges
without a route, then the unknown colour names. -/
def notices (r : Renderer α) (d : Diagram α) (colours : ColourTable) (placed : PositionedGraph α) :
    List Notice :=
  (r.engine.faults (r.request d) placed).map RoutingFault.notice ++
    ((colourUses d placed).filter fun name => (colours.resolve name).isNone).map Notice.unknownColour

end Renderer

end BoxDiagram
