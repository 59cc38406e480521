/-
Module: BoxDiagram.Drawing.Marker
Purpose: Arrowheads: one marker definition for every colour.
Main exports: markerId, distinctColours, markerDefinitions
-/
import BoxDiagram.Svg.Element

namespace BoxDiagram

/-- The id of the arrowhead of a colour: the ASCII letters and digits of its text after `arrow-`. -/
def markerId (colour : String) : String :=
  "arrow-" ++ String.ofList (colour.toList.filter Char.isAlphanum)

/-- The colours of a list, each once, where it first occurs. -/
def distinctColours (colours : List String) : List String :=
  colours.foldl (fun seen c => if seen.contains c then seen else seen ++ [c]) []

def arrowMarker (colour : String) : Svg.Node :=
  .element "marker"
    [("id", markerId colour), ("markerWidth", "10"), ("markerHeight", "7"), ("refX", "10"),
      ("refY", "3.5"), ("orient", "auto"), ("markerUnits", "strokeWidth")]
    [.element "polygon" [("points", "0 0, 10 3.5, 0 7"), ("fill", colour)] []]

/-- The definitions of the arrowheads of all colours of a list. -/
def markerDefinitions (colours : List String) : Svg.Node :=
  .element "defs" [] ((distinctColours colours).map arrowMarker)

end BoxDiagram
