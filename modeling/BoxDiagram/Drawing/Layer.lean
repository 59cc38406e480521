/-
Module: BoxDiagram.Drawing.Layer
Purpose: The layers of a drawing, and things collected for them in any order.
Main exports: Layer, LayeredOutput, LayeredOutput.add, LayeredOutput.merge, LayeredOutput.groups
-/
import BoxDiagram.Svg.Element

namespace BoxDiagram

/-- The layers, from the bottom to the top. -/
inductive Layer where
  | background
  | container
  | node
  | port
  | edge
  | label
  | legend
deriving Repr, DecidableEq, Inhabited

namespace Layer

def height : Layer → Nat
  | background => 0
  | container => 1
  | node => 2
  | port => 3
  | edge => 4
  | label => 5
  | legend => 6

/-- The name of the layer in a document. -/
def name : Layer → String
  | background => "background"
  | container => "container"
  | node => "node"
  | port => "port"
  | edge => "edge"
  | label => "label"
  | legend => "legend"

def all : List Layer := [background, container, node, port, edge, label, legend]

def ofName? (name : String) : Option Layer := all.find? fun l => l.name = name

end Layer

/-- Things to draw, each with its layer, in the order in which they came. -/
structure LayeredOutput (β : Type) where
  items : List (Layer × β)
deriving Repr

namespace LayeredOutput

variable {β γ : Type}

def empty : LayeredOutput β := ⟨[]⟩

def add (o : LayeredOutput β) (layer : Layer) (item : β) : LayeredOutput β := ⟨o.items ++ [(layer, item)]⟩

def merge (o p : LayeredOutput β) : LayeredOutput β := ⟨o.items ++ p.items⟩

/-- Everything of a list of outputs, in order. -/
def concat (os : List (LayeredOutput β)) : LayeredOutput β := ⟨os.flatMap items⟩

def isEmpty (o : LayeredOutput β) : Bool := o.items.isEmpty

/-- Apply a function to everything there is to draw. -/
def map (f : β → γ) (o : LayeredOutput β) : LayeredOutput γ := ⟨o.items.map fun (l, b) => (l, f b)⟩

/-- Collect neighbours of one layer into groups. -/
def collect : List (Layer × β) → List (Layer × List β)
  | [] => []
  | (layer, item) :: rest =>
      match collect rest with
      | (layer', items) :: groups =>
          if layer = layer' then (layer, item :: items) :: groups
          else (layer, [item]) :: (layer', items) :: groups
      | [] => [(layer, [item])]

/-- What there is to draw, layer by layer from the bottom.  Sorting keeps the order within a layer, and
layers without anything are left out. -/
def groups (o : LayeredOutput β) : List (Layer × List β) :=
  collect (o.items.mergeSort fun a b => a.1.height ≤ b.1.height)

end LayeredOutput

/-- The group of a layer in a document. -/
def Layer.group (layer : Layer) (nodes : List Svg.Node) : Svg.Node :=
  Svg.group [("data-layer", layer.name)] nodes

/-- A group for every layer in which something is drawn. -/
def LayeredOutput.render (o : LayeredOutput Svg.Node) : List Svg.Node :=
  o.groups.map fun (layer, nodes) => layer.group nodes

end BoxDiagram
