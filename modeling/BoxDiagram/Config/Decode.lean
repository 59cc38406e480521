/-
Module: BoxDiagram.Config.Decode
Purpose: The configuration that a value stands for.  Every setting may be missing, and unknown settings are
  passed over.
Main exports: ConfigValue.number?, Setting, Setting.applyAll?, LayoutConfig.settings, decodeConfig?
-/
import BoxDiagram.Config.Basic
import BoxDiagram.Config.Value
import BoxDiagram.Number.Reading

namespace BoxDiagram

namespace ConfigValue

/-- The whole numbers that a setting may have: those of 64 bits, with or without a sign. -/
def fitsWord (n : Int) : Bool := decide (-(powerOfTwo 63 : Int) ≤ n ∧ n < (powerOfTwo 64 : Int))

/-- A number; whole numbers are rounded once. -/
def number? : ConfigValue → Option Float32
  | integer n => if fitsWord n then some (Numeral.finite (n < 0) n.natAbs 0).toFloat32 else none
  | real x => some x.toFloat32
  | _ => none

def text? : ConfigValue → Option String
  | text s => some s
  | _ => none

def texts? : ConfigValue → Option (OrderedMap String)
  | table entries => (entries.mapM fun e => (text? e.2).map (e.1, ·)).map OrderedMap.ofList
  | _ => none

end ConfigValue

/-- Something that a part `β` of a configuration can be told, with the key it has in a table. -/
structure Setting (β : Type) where
  key : String
  apply : ConfigValue → β → Option β

namespace Setting

variable {β : Type}

def number (key : String) (set : Float32 → β → β) : Setting β :=
  ⟨key, fun value part => value.number?.map (set · part)⟩

def text (key : String) (set : String → β → β) : Setting β :=
  ⟨key, fun value part => value.text?.map (set · part)⟩

/-- Apply one entry of a table; a key that no setting has changes nothing. -/
def applyEntry (settings : List (Setting β)) (part : β) (entry : String × ConfigValue) : Option β :=
  match settings.find? fun s => s.key = entry.1 with
  | some s => s.apply entry.2 part
  | none => some part

/-- Apply a value to a part: a table by its keys, a list by the order of the settings. -/
def applyAll? (settings : List (Setting β)) (part : β) : ConfigValue → Option β
  | .table entries => entries.foldlM (applyEntry settings) part
  | .list items => (settings.zip items).foldlM (fun part (s, value) => s.apply value part) part
  | _ => none

end Setting

def LayoutConfig.settings : List (Setting (LayoutConfig Float32)) :=
  [.number "node_spacing" fun x c => { c with nodeSpacing := x },
    .number "layer_spacing" fun x c => { c with layerSpacing := x },
    .number "component_spacing" fun x c => { c with componentSpacing := x },
    .number "edge_node_spacing" fun x c => { c with edgeNodeSpacing := x },
    .number "edge_edge_spacing" fun x c => { c with edgeEdgeSpacing := x },
    .number "edge_node_between_layers" fun x c => { c with edgeNodeBetweenLayers := x },
    .number "edge_edge_between_layers" fun x c => { c with edgeEdgeBetweenLayers := x },
    .number "edge_label_spacing" fun x c => { c with edgeLabelSpacing := x },
    .number "corner_radius" fun x c => { c with cornerRadius := x },
    .number "canvas_padding" fun x c => { c with canvasPadding := x },
    .number "label_padding" fun x c => { c with labelPadding := x }]

def StyleConfig.settings : List (Setting StyleConfig) :=
  [⟨"colours", fun value c => value.texts?.map fun colours => { c with colours := colours }⟩,
    .text "default_edge_colour" fun s c => { c with defaultEdgeColour := s }]

def AppConfig.settings : List (Setting (AppConfig Float32)) :=
  [⟨"layout", fun value c =>
      (Setting.applyAll? LayoutConfig.settings .standard value).map fun l => { c with layout := l }⟩,
    ⟨"style", fun value c =>
      (Setting.applyAll? StyleConfig.settings .standard value).map fun s => { c with style := s }⟩]

/-- The configuration that a value stands for, if it is one. -/
def decodeConfig? (value : ConfigValue) : Option (AppConfig Float32) :=
  Setting.applyAll? AppConfig.settings .standard value

end BoxDiagram
