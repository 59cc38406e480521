/-
Module: BoxDiagram.Layout.Placement
Purpose: Places for the nodes of a request, from the innermost containers outwards.  The children of a
  container are sized first, then put into layers along the flow and stacked across it.
Main exports: Direction, Spacing, Placement, Placement.packComponent, Placement.place
-/
import BoxDiagram.Layout.Hierarchy
import BoxDiagram.Layout.Ports
import BoxDiagram.Layout.Ranks

namespace BoxDiagram

/-! ### Direction and spacing -/

/-- The direction in which layers follow one another. -/
inductive Direction where
  | right
  | left
  | down
  | up
deriving Repr, DecidableEq, Inhabited

namespace Direction

/-- Read a direction in any case, with blanks around it; anything else runs to the right. -/
def ofOption (value : Option String) : Direction :=
  match value.map fun v => String.ofList ((Text.trimList v.toList).map Char.toUpper) with
  | some "LEFT" => left
  | some "DOWN" => down
  | some "UP" => up
  | _ => right

/-- Do the layers follow one another along the x axis? -/
def isHorizontal : Direction → Bool
  | right | left => true
  | down | up => false

/-- Do the layers run against the axis? -/
def isReversed : Direction → Bool
  | left | up => true
  | right | down => false

end Direction

/-- The space between the nodes of a layer, between layers and between components. -/
structure Spacing (α : Type) where
  node : α
  layer : α
  component : α
deriving Repr, DecidableEq, Inhabited

def Spacing.ofOptions {α : Type} [Scalar α] [NumberText α] (o : LayoutOptions) : Spacing α :=
  { node := (o.number? OptionKey.nodeSpacing).getD 40.0
    layer := (o.number? OptionKey.layerSpacing).getD 160.0
    component := (o.number? OptionKey.componentSpacing).getD 40.0 }

/-! ### Along and across the flow -/

/-- A place by its distance along the flow and across it. -/
structure FlowPoint (α : Type) where
  main : α
  cross : α
deriving Repr, DecidableEq, Inhabited

/-- An extent along the flow and across it. -/
structure FlowSize (α : Type) where
  main : α
  cross : α
deriving Repr, DecidableEq, Inhabited

variable {α κ : Type} [Scalar α] [NumberText α] [Coordinate κ]

def Direction.flowSize (d : Direction) (s : Size α) : FlowSize α :=
  if d.isHorizontal then ⟨s.width, s.height⟩ else ⟨s.height, s.width⟩

/-- The point at a place along and across a direction. -/
def Direction.point (d : Direction) (p : FlowPoint α) : Point α :=
  if d.isHorizontal then ⟨p.main, p.cross⟩ else ⟨p.cross, p.main⟩

/-- The size with an extent along and across a direction. -/
def Direction.size (d : Direction) (s : FlowSize α) : Size α :=
  if d.isHorizontal then ⟨s.main, s.cross⟩ else ⟨s.cross, s.main⟩

/-! ### Packing -/

/-- The space between `count` things with `gap` between neighbours. -/
def gaps (gap : α) (count : Nat) : α := gap * Scalar.ofNat (count - 1)

/-- A layer with its extents: as thick as its thickest member, as long as its members with space between
them. -/
structure LayerExtent (α : Type) where
  members : List (Nat × FlowSize α)
  thickness : α
  stack : α

def LayerExtent.of (spacing : Spacing α) (members : List (Nat × FlowSize α)) : LayerExtent α :=
  { members := members
    thickness := Scalar.maximum (members.map (·.2.main))
    stack := Scalar.sum (members.map (·.2.cross)) + gaps spacing.node members.length }

/-- Stack the members of a layer one after the other across the flow, each in the middle of the layer. -/
def stackMembers (spacing : Spacing α) (main thickness : α) :
    α → List (Nat × FlowSize α) → List (Nat × FlowPoint α)
  | _, [] => []
  | cross, (i, size) :: rest =>
      (i, ⟨main + (thickness - size.main) / 2.0, cross⟩) ::
        stackMembers spacing main thickness (cross + (size.cross + spacing.node)) rest

/-- Put layers one behind the other along the flow, each centred across it. -/
def stackLayers (spacing : Spacing α) (offset extent : α) :
    α → List (LayerExtent α) → List (Nat × FlowPoint α)
  | _, [] => []
  | main, l :: rest =>
      stackMembers spacing main l.thickness (offset + (extent - l.stack) / 2.0) l.members ++
        stackLayers spacing offset extent (main + (l.thickness + spacing.layer)) rest

/-- Places for the members of a component that starts at `offset` across the flow, and its extent. -/
def packComponent (spacing : Spacing α) (sizes : List (FlowSize α)) (ranks : Ranks) (offset : α) :
    List (Nat × FlowPoint α) × FlowSize α :=
  let layers := ranks.map fun layer =>
    LayerExtent.of spacing (layer.filterMap fun i => sizes[i]?.map fun s => (i, s))
  let cross := Scalar.maximum (layers.map (·.stack))
  (stackLayers spacing offset cross 0.0 layers,
    ⟨Scalar.sum (layers.map (·.thickness)) + gaps spacing.layer layers.length, cross⟩)

/-- Pack one more component beside those that are packed, with the space of components between them unless it
is the first one. -/
def packNext (spacing : Spacing α) (sizes : List (FlowSize α))
    (state : List (Nat × FlowPoint α) × FlowSize α) (component : Ranks × Nat) :
    List (Nat × FlowPoint α) × FlowSize α :=
  let (places, extent) := state
  let offset := if component.2 = 0 then extent.cross else extent.cross + spacing.component
  let (here, size) := packComponent spacing sizes component.1 offset
  (places ++ here, ⟨Scalar.larger extent.main size.main, offset + size.cross⟩)

/-- Pack components one beside the other across the flow.  The result is the places of all children and the
extent of the whole. -/
def packComponents (spacing : Spacing α) (sizes : List (FlowSize α)) (components : List Ranks) :
    List (Nat × FlowPoint α) × FlowSize α :=
  components.zipIdx.foldl (packNext spacing sizes) ([], ⟨0.0, 0.0⟩)

/-! ### Placing -/

/-- What the placement of every container needs to know. -/
structure Placement (α κ : Type) where
  layering : Layering κ
  hierarchy : Hierarchy
  edges : List LayoutEdge
  direction : Direction
  spacing : Spacing α

namespace Placement

/-- The number of the child of the container at `path` that an end of an edge is in, or is. -/
def childOf? (p : Placement α κ) (path ids : List String) (endpoint : String) : Option Nat := do
  let whole ← p.hierarchy.pathOf? endpoint
  if path.isPrefixOf whole then
    let id ← whole[path.length]?
    lastValue? id ids.zipIdx
  else none

/-- The edges between different children of the container at `path`, by the numbers of the children, each
once. -/
def projectEdges (p : Placement α κ) (path ids : List String) : List (Nat × Nat) :=
  (p.edges.filterMap fun e => do
    let source ← p.childOf? path ids (← e.sources.head?)
    let target ← p.childOf? path ids (← e.targets.head?)
    if source = target then none else some (source, target)).eraseDups

/-- The place of a child of this size in a container with `extent` along the flow.  A reversed direction
counts from the far end. -/
def orient (d : Direction) (extent : α) (size : FlowSize α) (p : FlowPoint α) : Point α :=
  d.point ⟨if d.isReversed then extent - p.main - size.main else p.main, p.cross⟩

def moveTo (corner : Point α) : Tree (PositionedNode α) → Tree (PositionedNode α)
  | .node n cs => .node { n with x := corner.x, y := corner.y } cs

/-- Arrange children that have their sizes: each gets its place, and the whole its extent. -/
def arrange (p : Placement α κ) (path : List String) (children : List (Tree (PositionedNode α))) :
    Except String (List (Tree (PositionedNode α)) × Size α) := do
  if children.isEmpty then return ([], Size.zero)
  let sizes := children.map fun t => p.direction.flowSize t.value.size
  let components ← rankChildren p.layering children.length
    (p.projectEdges path (children.map fun t => t.value.id))
  let (places, extent) := packComponents p.spacing sizes components
  let placed := (children.zip sizes).zipIdx.map fun ((t, size), i) =>
    moveTo (orient p.direction extent.main size ((places.lookup i).getD ⟨0.0, 0.0⟩)) t
  return (placed, p.direction.size extent)

/-- The size of a leaf: the one it declares, and at least its minimum. -/
def leafExtent (n : LayoutNode α) : Size α :=
  let declared : Size α := ⟨n.width.getD 0.0, n.height.getD 0.0⟩
  match n.minimumSize? with
  | some minimum => declared.max minimum
  | none => declared

/-- The size of a container around content: padding is added, and it is at least its minimum. -/
def containerExtent (n : LayoutNode α) (content : Size α) : Size α :=
  let size := content.pad (n.padding?.getD Insets.zero)
  match n.minimumSize? with
  | some minimum => size.max minimum
  | none => size

/-- A child moved by the padding to its left and above it. -/
def indent (padding : Insets α) : Tree (PositionedNode α) → Tree (PositionedNode α)
  | .node n cs => .node { n with x := n.x + padding.left, y := n.y + padding.top } cs

def sized (n : LayoutNode α) (size : Size α) : PositionedNode α :=
  { id := n.id
    x := 0.0
    y := 0.0
    width := size.width
    height := size.height
    labels := n.labels
    ports := placePorts n.ports size }

mutual

/-- Give a node its size and everything inside it its place. -/
def placeTree (p : Placement α κ) (parent : List String) :
    Tree (LayoutNode α) → Except String (Tree (PositionedNode α))
  | .node n [] => .ok (.node (sized n (leafExtent n)) [])
  | .node n (c :: cs) => do
      let path := parent ++ [n.id]
      let (children, content) ← p.arrange path (← p.placeForest path (c :: cs))
      return .node (sized n (containerExtent n content))
        (children.map (indent (n.padding?.getD Insets.zero)))

/-- Give the nodes of a list their sizes and everything inside them its place. -/
def placeForest (p : Placement α κ) (parent : List String) :
    List (Tree (LayoutNode α)) → Except String (List (Tree (PositionedNode α)))
  | [] => .ok []
  | t :: ts => do
      let first ← p.placeTree parent t
      return first :: (← p.placeForest parent ts)

end

end Placement

end BoxDiagram
