/-
Module: BoxDiagram.Config.Basic
Purpose: What a configuration can set: the spacings of layout and drawing, and the colours.
Main exports: LayoutConfig, StyleConfig, StyleConfig.colourTable, AppConfig
-/
import BoxDiagram.Colour.Table
import BoxDiagram.Number.Scalar

namespace BoxDiagram

/-- Spacings.  The first eight become options of the layout request; the others are used in the drawing. -/
structure LayoutConfig (α : Type) where
  nodeSpacing : α
  layerSpacing : α
  componentSpacing : α
  edgeNodeSpacing : α
  edgeEdgeSpacing : α
  edgeNodeBetweenLayers : α
  edgeEdgeBetweenLayers : α
  edgeLabelSpacing : α
  cornerRadius : α
  canvasPadding : α
  labelPadding : α
deriving Repr

/-- The spacings without a configuration. -/
def LayoutConfig.standard {α : Type} [Scalar α] : LayoutConfig α :=
  { nodeSpacing := 40.0
    layerSpacing := 160.0
    componentSpacing := 40.0
    edgeNodeSpacing := 35.0
    edgeEdgeSpacing := 25.0
    edgeNodeBetweenLayers := 50.0
    edgeEdgeBetweenLayers := 30.0
    edgeLabelSpacing := 10.0
    cornerRadius := 12.0
    canvasPadding := 60.0
    labelPadding := 4.0 }

/-- Additional colour names, and the colour of edges that name none. -/
structure StyleConfig where
  colours : OrderedMap String
  defaultEdgeColour : String
deriving Repr, DecidableEq

namespace StyleConfig

/-- Why a style configuration cannot be used. -/
inductive Fault where
  | badColour (name : String) (fault : Colour.Fault)
  | badEdgeColour (fault : Colour.Fault)
deriving Repr, DecidableEq

def Fault.message : Fault → String
  | badColour name fault => "Invalid colour `" ++ name ++ "` in config: " ++ fault.message
  | badEdgeColour fault => "Invalid default edge colour in config: " ++ fault.message

def standard : StyleConfig := ⟨.empty, "#555"⟩

/-- The built-in names with those of the configuration inserted in order. -/
def colourTable [ColourSyntax] (s : StyleConfig) : Except Fault ColourTable :=
  s.colours.entries.foldlM
    (fun table (name, value) => (table.insert name value).mapError (Fault.badColour name))
    ColourTable.builtin

/-- The colour of edges that name none. -/
def edgeColour [ColourSyntax] (s : StyleConfig) : Except Fault Colour :=
  (Colour.parse s.defaultEdgeColour).mapError Fault.badEdgeColour

end StyleConfig

/-- A configuration. -/
structure AppConfig (α : Type) where
  layout : LayoutConfig α
  style : StyleConfig
deriving Repr

/-- The configuration that is used when there is none. -/
def AppConfig.standard {α : Type} [Scalar α] : AppConfig α := ⟨.standard, .standard⟩

end BoxDiagram
