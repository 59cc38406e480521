/-
Module: BoxDiagram.Drawing.Text
Purpose: Lines of text in a drawing.
Main exports: Caption, TextBlock, TextBlock.baselines
-/
import BoxDiagram.Geometry
import BoxDiagram.Svg.Element

namespace BoxDiagram

variable {α : Type} [Scalar α]

/-- A line of text on a baseline. -/
structure Caption (α : Type) where
  x : α
  baseline : α
  content : String
  look : List (String × String)
deriving Repr

def Caption.centred (x baseline : α) (content fontSize : String) (look : List (String × String)) :
    Caption α :=
  ⟨x, baseline, content, ("text-anchor", "middle") :: ("font-size", fontSize) :: look⟩

/-- Lines of text below one another. -/
structure TextBlock (α : Type) where
  x : α
  /-- Baseline of the first line. -/
  baseline : α
  /-- Distance of neighbouring baselines. -/
  step : Nat
  lines : List String
  look : List (String × String)
deriving Repr

def TextBlock.baselines (b : TextBlock α) : List α :=
  (List.range b.lines.length).map fun i => b.baseline + Scalar.ofNat (i * b.step)

variable [NumberText α]

def placeAttributes (x y : α) : List (String × String) :=
  [("x", NumberText.print x), ("y", NumberText.print y)]

def Caption.toSvg (c : Caption α) : Svg.Node :=
  Svg.textElement (placeAttributes c.x c.baseline ++ c.look) [.text c.content]

/-- The element of a block: one span for each line, moved down from the line before. -/
def TextBlock.toSvg (b : TextBlock α) : Svg.Node :=
  Svg.textElement (placeAttributes b.x b.baseline ++ b.look)
    (b.lines.zipIdx.map fun (line, i) =>
      Svg.textSpan [("x", NumberText.print b.x), ("dy", if i = 0 then "0" else toString b.step)] line)

/-- The attribute that moves a group to a point. -/
def translation (p : Point α) : String × String :=
  ("transform", "translate(" ++ NumberText.print p.x ++ ", " ++ NumberText.print p.y ++ ")")

end BoxDiagram
