/-
Module: BoxDiagram.Drawing.Legend
Purpose: The legend: the meaning of edge colours and, if asked for, a table of all ports.
Main exports: legendWidth, LegendPanel, legendPanel?
-/
import BoxDiagram.Diagram.Basic
import BoxDiagram.Drawing.Layer
import BoxDiagram.Drawing.Text

namespace BoxDiagram

variable {α : Type} [Scalar α]

/-- Space between the edge of the panel and its texts. -/
def legendPadding : α := 15.0

def legendLineHeight : α := 20.0

def legendLeft : α := 20.0

def colourRowText (entry : String × String) : String := entry.1 ++ ": " ++ entry.2

def portRowText (p : PortEntry) : String := p.boxName ++ " / " ++ p.label ++ " (" ++ p.direction.tag ++ ")"

/-- The row of a port with the longer of the two tags; this is what is measured. -/
def measuredPortRow (p : PortEntry) : String := p.boxName ++ " / " ++ p.label ++ " (OUT)"

def legendWidth (legend : Legend) (ports : List PortEntry) : α :=
  let columns := max 10 (Text.longest (legend.edgeColours.map colourRowText ++ ports.map measuredPortRow))
  Scalar.larger (Scalar.ofNat columns * 6.5 + legendPadding * 2.0 + 20.0) 260.0

/-- A coloured dot in front of a row. -/
structure Swatch (α : Type) where
  x : α
  y : α
  fill : String
deriving Repr

/-- The legend as it is drawn. -/
structure LegendPanel (α : Type) where
  top : α
  width : α
  /-- Height of the panel itself. -/
  panelHeight : α
  title : Caption α
  swatches : List (Swatch α)
  colourRows : List (Caption α)
  portHeading : Option (Caption α)
  portRows : List (Caption α)
deriving Repr

namespace LegendPanel

/-- Height that the panel takes from the drawing, with its margins. -/
def height (p : LegendPanel α) : α := p.panelHeight + 20.0

/-- Width of a drawing that shows the whole panel, with the left margin again on the right. -/
def requiredWidth (p : LegendPanel α) : α := p.width + legendLeft * 2.0

/-- All texts below the title, from top to bottom. -/
def rows (p : LegendPanel α) : List (Caption α) := p.colourRows ++ p.portHeading.toList ++ p.portRows

end LegendPanel

def legendCaption (x baseline : α) (content fontSize : String) (look : List (String × String)) :
    Caption α :=
  ⟨x, baseline, content, ("font-size", fontSize) :: ("fill", "#333") :: look⟩

/-- Give every entry of a list the next row, one line height below the row before, of which `y` is the
baseline; the second part is the last baseline. -/
def stackRows {β : Type} (y : α) : List β → List (α × β) × α
  | [] => ([], y)
  | entry :: rest =>
      let y := y + legendLineHeight
      let (rows, last) := stackRows y rest
      ((y, entry) :: rows, last)

def Legend.listedPorts (legend : Legend) (ports : List PortEntry) : List PortEntry :=
  if legend.portTable then ports else []

/-- The legend, with its top 10 below `startY`.  There is none if there is nothing to explain.  Swatches have
the colours that `paint` gives for the names. -/
def legendPanel? (legend : Legend) (ports : List PortEntry) (startY : α) (paint : String → String) :
    Option (LegendPanel α) :=
  let ports := legend.listedPorts ports
  if legend.edgeColours.isEmpty && ports.isEmpty then none
  else
    let top := startY + 10.0
    let textX : α := legendLeft + legendPadding
    let titleY : α := legendLineHeight
    let (colours, y) := stackRows (titleY + 8.0) legend.edgeColours
    let headingY := y + (legendLineHeight + 4.0)
    let (portRows, lastPortY) := stackRows headingY ports
    let y := if ports.isEmpty then y else lastPortY
    some
      { top := top
        width := legendWidth legend ports
        panelHeight := y + legendPadding
        title := legendCaption textX (top + titleY) "LEGEND" "11" [("font-weight", "bold")]
        swatches := colours.map fun (y, name, _) => ⟨textX + 6.0, top + y - 4.0, paint name⟩
        colourRows := colours.map fun (y, entry) =>
          legendCaption (textX + 18.0) (top + y) (colourRowText entry) "10" []
        portHeading :=
          if ports.isEmpty then none
          else some (legendCaption textX (top + headingY) "Ports" "11" [("font-weight", "bold")])
        portRows := portRows.map fun (y, port) =>
          legendCaption textX (top + y) (portRowText port) "10" [] }

variable [NumberText α]

def Swatch.toSvg (s : Swatch α) : Svg.Node :=
  .element "circle"
    [("cx", NumberText.print s.x), ("cy", NumberText.print s.y), ("r", "6"), ("fill", s.fill)] []

def LegendPanel.frame (p : LegendPanel α) : Svg.Node :=
  .element "rect"
    [("x", NumberText.print (legendLeft : α)), ("y", NumberText.print p.top),
      ("width", NumberText.print p.width), ("height", NumberText.print p.panelHeight), ("rx", "4"),
      ("ry", "4"), ("fill", "#FAFAFA"), ("stroke", "#CCC"), ("stroke-width", "1")] []

/-- Frame, title, swatches and rows, all in the legend layer. -/
def LegendPanel.output (p : LegendPanel α) : LayeredOutput Svg.Node :=
  ⟨(p.frame :: p.title.toSvg :: p.swatches.map Swatch.toSvg ++ p.rows.map Caption.toSvg).map
    fun node => (.legend, node)⟩

end BoxDiagram
