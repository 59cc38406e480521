/-
Module: BoxDiagram.Proofs.InferredSides
Purpose: The sides that a layout request gives to ports.  A port keeps a side of its own; of the others, inputs are opposite
  to all the rest.  They are on the axis along which an engine lays out the request exactly if the flow is a known one: a
  request with an unknown flow runs to the right, and its ports are at the top and at the bottom.
Main exports: PortSide.isHorizontal, PortSide.opposite, SideChosen, InferredOnAxis, portSides_onAxis_iff,
  diagonalFlow_offAxis
-/
import BoxDiagram.Proofs.RequestOptions

namespace BoxDiagram

/-! ### Sides and axes -/

namespace PortSide

/-- Is a port on this side met along the x axis? -/
def isHorizontal : PortSide → Bool
  | west | east => true
  | north | south => false

/-- The side across the box. -/
def opposite : PortSide → PortSide
  | north => south
  | south => north
  | east => west
  | west => east

@[simp] theorem isHorizontal_opposite (s : PortSide) : s.opposite.isHorizontal = s.isHorizontal := by
  cases s <;> rfl

end PortSide

/-- The side of an input that does not say on which side it is. -/
def FlowDirection.inputSide (flow : FlowDirection) : PortSide := if flow.isHorizontal then .west else .north

theorem FlowDirection.isHorizontal_inputSide (flow : FlowDirection) :
    flow.inputSide.isHorizontal = flow.isHorizontal := by
  rw [inputSide]
  cases flow.isHorizontal <;> rfl

/-- An unknown flow is laid out to the right, though it does not count as horizontal. -/
theorem FlowDirection.isHorizontal_eq_direction_iff (flow : FlowDirection) :
    flow.isHorizontal = flow.direction.isHorizontal ↔ flow.isKnown = true := by
  cases flow <;> simp [isHorizontal, direction, Direction.isHorizontal, isKnown]

theorem portSide_of_own {p : Port} {side : PortSide} (own : p.side = some side) (flow : FlowDirection) :
    portSide p flow = side := by
  simp [portSide, own]

theorem portSide_input {p : Port} (free : p.side = none) (input : p.direction = .input) (flow : FlowDirection) :
    portSide p flow = flow.inputSide := by
  cases axis : flow.isHorizontal <;> simp [portSide, FlowDirection.inputSide, free, input, axis]

/-- A port of unknown direction is treated as an output. -/
theorem portSide_other {p : Port} (free : p.side = none) (other : p.direction ≠ .input) (flow : FlowDirection) :
    portSide p flow = flow.inputSide.opposite := by
  cases direction : p.direction with
  | input => exact absurd direction other
  | output => cases axis : flow.isHorizontal <;>
      simp [portSide, FlowDirection.inputSide, PortSide.opposite, free, direction, axis]
  | unknown word => cases axis : flow.isHorizontal <;>
      simp [portSide, FlowDirection.inputSide, PortSide.opposite, free, direction, axis]

theorem isHorizontal_portSide {p : Port} (free : p.side = none) (flow : FlowDirection) :
    (portSide p flow).isHorizontal = flow.isHorizontal := by
  by_cases input : p.direction = .input
  · rw [portSide_input free input, flow.isHorizontal_inputSide]
  · rw [portSide_other free input, PortSide.isHorizontal_opposite, flow.isHorizontal_inputSide]

/-! ### The ports of a request -/

section Request

variable {α : Type} [Scalar α] [NumberText α]

theorem layoutRequest_direction (d : Diagram α) (config : LayoutConfig α) :
    (layoutRequest d config).direction = d.flow.direction := by
  rw [LayoutGraph.direction, layoutRequest, rootOptions_direction, ofOption_directionName]

/-- The ports of a request are related to those of the boxes, port by port. -/
def PortsRelated (R : Port → LayoutPort α → Prop) (d : Diagram α) (g : LayoutGraph α) : Prop :=
  List.Forall₂ (fun t u => List.Forall₂ R t.value.ports u.value.ports) d.allBoxes g.allNodes

theorem portsRelated_layoutRequest_iff {R : Port → LayoutPort α → Prop} (d : Diagram α) (config : LayoutConfig α) :
    PortsRelated R d (layoutRequest d config) ↔
      ∀ t ∈ d.allBoxes, ∀ p ∈ t.value.ports, R p (portRequest t.value d.flow p) := by
  simp only [PortsRelated, LayoutGraph.allNodes_eq, layoutRequest_nodes, List.forall₂_map_right_iff, List.forall₂_same,
    boxNode_ports]

/-- How the side of a port is chosen, if inputs are on the side `facing`: a side of its own is kept, and what is no input
is on the other side. -/
structure SideChosen (facing : PortSide) (p : Port) (q : LayoutPort α) : Prop where
  own : ∀ side, p.side = some side → q.side = side
  input : p.side = none → p.direction = .input → q.side = facing
  other : p.side = none → p.direction ≠ .input → q.side = facing.opposite

/-- A port without a side of its own is on the axis of the flow. -/
def OnAxis (direction : Direction) (p : Port) (q : LayoutPort α) : Prop :=
  p.side = none → q.side.isHorizontal = direction.isHorizontal

/-- In the request of a diagram all inferred sides are on the axis of the direction that an engine reads from it. -/
def InferredOnAxis (d : Diagram α) (config : LayoutConfig α) : Prop :=
  PortsRelated (OnAxis (layoutRequest d config).direction) d (layoutRequest d config)

/-- A port has no side of its own. -/
def Diagram.HasFreePort (d : Diagram α) : Prop := ∃ t ∈ d.allBoxes, ∃ p ∈ t.value.ports, p.side = none

theorem inferredOnAxis_iff (d : Diagram α) (config : LayoutConfig α) :
    InferredOnAxis d config ↔ (d.HasFreePort → d.flow.isKnown = true) := by
  have onAxis_iff (t : Tree Box) (p : Port) :
      OnAxis d.flow.direction p (portRequest t.value d.flow p : LayoutPort α) ↔ (p.side = none → d.flow.isKnown = true) := by
    apply imp_congr_right
    intro free
    rw [portRequest, isHorizontal_portSide free, d.flow.isHorizontal_eq_direction_iff]
  rw [InferredOnAxis, layoutRequest_direction, portsRelated_layoutRequest_iff]
  simp only [onAxis_iff, Diagram.HasFreePort]
  constructor
  · rintro all ⟨t, isBox, p, isPort, free⟩
    exact all t isBox p isPort free
  · intro known t isBox p isPort free
    exact known ⟨t, isBox, p, isPort, free⟩

/-- Ports keep the sides of their own, and of the others the inputs are all on one side and the rest on the opposite one.
These sides are on the axis of the direction that an engine reads from the request exactly if the flow is a known one or
every port has a side of its own. -/
theorem portSides_onAxis_iff (d : Diagram α) (config : LayoutConfig α) :
    (∃ facing, PortsRelated (SideChosen facing) d (layoutRequest d config)) ∧
      (InferredOnAxis d config ↔ (d.HasFreePort → d.flow.isKnown = true)) := by
  refine ⟨⟨d.flow.inputSide, ?_⟩, inferredOnAxis_iff d config⟩
  rw [portsRelated_layoutRequest_iff]
  intro t _ p _
  exact {
    own := fun side own => portSide_of_own own d.flow
    input := fun free input => portSide_input free input d.flow
    other := fun free other => portSide_other free other d.flow }

end Request

/-- A box with an input and an output in a diagram with an unknown flow. -/
def diagonalFlow : Diagram Float32 :=
  { name := some "D"
    title := none
    flow := .ofWord "DIAGONAL"
    dpi := Diagram.defaultDpi
    style := .plain
    boxes := [
      .node { (default : Box) with name := "A", ports := [⟨"in", .input, none, none⟩, ⟨"out", .output, none, none⟩] } []]
    actors := []
    edges := []
    legend := ⟨[], false⟩
    metadata := none }

/-- An engine lays the diagram out to the right, with the input at the top and the output at the bottom. -/
theorem diagonalFlow_offAxis :
    (layoutRequest diagonalFlow LayoutConfig.standard).direction = .right ∧
      ((layoutRequest diagonalFlow LayoutConfig.standard).allNodes.flatMap fun t =>
        t.value.ports.map fun q => (q.id, q.side)) = [("A_in", .north), ("A_out", .south)] ∧
      ¬ InferredOnAxis diagonalFlow LayoutConfig.standard := by
  refine ⟨by decide +kernel, by decide +kernel, ?_⟩
  intro onAxis
  have free : diagonalFlow.HasFreePort := by
    rw [Diagram.HasFreePort]
    decide +kernel
  have known := (inferredOnAxis_iff diagonalFlow LayoutConfig.standard).mp onAxis free
  exact absurd known (by decide +kernel)

end BoxDiagram
