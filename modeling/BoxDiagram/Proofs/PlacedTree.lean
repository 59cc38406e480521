/-
Module: BoxDiagram.Proofs.PlacedTree
Purpose: A layout keeps the tree of nodes that was asked for.  Sizes and places are new, but every node stays where it
  is in the tree, with its id, its labels and its ports, and the walk over the layout tells its depth.
Main exports: NodeNames, layeredLayout_names, layeredLayout_parents, layeredLayout_ids,
  PositionedGraph.walk_listing
-/
import BoxDiagram.Proofs.Listing
import BoxDiagram.Proofs.PlacementSteps
import BoxDiagram.Proofs.Walk

namespace BoxDiagram

/-- What a placed node takes over from the request: its id, its labels and the ids of its ports. -/
structure NodeNames where
  id : String
  labels : List String
  ports : List String

variable {α κ : Type}

def LayoutNode.names (n : LayoutNode α) : NodeNames := ⟨n.id, n.labels, n.ports.map LayoutPort.id⟩

def PositionedNode.names (n : PositionedNode α) : NodeNames := ⟨n.id, n.labels, n.ports.map PositionedPort.id⟩

@[simp] theorem LayoutNode.names_id (n : LayoutNode α) : n.names.id = n.id := rfl

@[simp] theorem PositionedNode.names_id (n : PositionedNode α) : n.names.id = n.id := rfl

@[simp] theorem LayoutNode.names_ports (n : LayoutNode α) : n.names.ports = n.ports.map LayoutPort.id := rfl

@[simp] theorem PositionedNode.names_ports (n : PositionedNode α) : n.names.ports = n.ports.map PositionedPort.id := rfl

/-- A request with names alone. -/
def requestedNames (ts : List (Tree (LayoutNode α))) : List (Tree NodeNames) :=
  Tree.mapForest (fun t => t.value.names) ts

/-- A layout with names alone. -/
def placedNames (us : List (Tree (PositionedNode α))) : List (Tree NodeNames) :=
  Tree.mapForest (fun u => u.value.names) us

/-! ### One node -/

/-- A placed node has the names that were asked for, and so has everything inside it. -/
def SameNames (t : Tree (LayoutNode α)) (u : Tree (PositionedNode α)) : Prop :=
  Tree.mapTree (fun u => u.value.names) u = Tree.mapTree (fun t => t.value.names) t

theorem placedNames_moved {us vs : List (Tree (PositionedNode α))} (moved : List.Forall₂ Placement.Moved us vs) :
    placedNames vs = placedNames us := by
  induction moved with
  | nil => rfl
  | @cons u v us vs here _ ih =>
      obtain ⟨corner, rfl⟩ := here
      have sameTree : Tree.mapTree (fun u => u.value.names) (Placement.moveTo corner u) =
          Tree.mapTree (fun u => u.value.names) u := by
        cases u
        rfl
      rw [placedNames, Tree.mapForest, sameTree]
      exact congrArg _ ih

theorem placedNames_of_forall₂ {ts : List (Tree (LayoutNode α))} {us : List (Tree (PositionedNode α))}
    (all : List.Forall₂ SameNames ts us) : placedNames us = requestedNames ts := by
  induction all with
  | nil => rfl
  | cons here _ ih =>
      rw [placedNames, requestedNames, Tree.mapForest, Tree.mapForest, here]
      exact congrArg _ ih

variable [Scalar α]

/-- Placing ports keeps their ids. -/
theorem placePorts_ids (ports : List (LayoutPort α)) (size : Size α) :
    (placePorts ports size).map PositionedPort.id = ports.map LayoutPort.id := by
  have ids : (placePorts ports size).map PositionedPort.id = ports.zipIdx.map fun entry => entry.1.id := by
    rw [placePorts, List.map_map]
    rfl
  rw [ids]
  conv_rhs => rw [← List.zipIdx_map_fst 0 ports, List.map_map]
  rfl

@[simp] theorem sized_names (n : LayoutNode α) (size : Size α) : (Placement.sized n size).names = n.names := by
  rw [PositionedNode.names, Placement.sized, placePorts_ids, LayoutNode.names]

/-! ### The whole layout -/

section Layout

variable [NumberText α] [Coordinate κ]

theorem sameNames_carried (p : Placement α κ) : p.Carried SameNames where
  leaf := by
    intro n
    simp [SameNames, Tree.mapTree, Tree.mapForest]
  compound := by
    intro path n inside inner arranged content _ all arrangedInside
    have moved := Placement.moved_indented (Placement.arrange_moved arrangedInside) (n.padding?.getD Insets.zero)
    have names : placedNames (arranged.map (Placement.indent (n.padding?.getD Insets.zero))) = requestedNames inside :=
      (placedNames_moved moved).trans (placedNames_of_forall₂ all)
    rw [SameNames, Tree.mapTree, Tree.mapTree, Tree.value_node, Tree.value_node, sized_names]
    exact congrArg _ names

variable {layering : Layering κ} {g : LayoutGraph α} {placed : PositionedGraph α}

/-- A layout has the tree of nodes that was asked for, with the same names. -/
theorem layeredLayout_names (laidOut : layeredLayout layering g = .ok placed) :
    placedNames placed.children = requestedNames g.children := by
  obtain ⟨inner, all, moved⟩ := (sameNames_carried (g.placement layering)).layout laidOut
  exact (placedNames_moved moved).trans (placedNames_of_forall₂ all)

/-- In a layout the same nodes are around a node as in the request. -/
theorem layeredLayout_parents (laidOut : layeredLayout layering g = .ok placed) :
    Tree.parents placed.children = Tree.parents g.children := by
  have same := congrArg Tree.parents (layeredLayout_names laidOut)
  rw [placedNames, requestedNames, Tree.parents_mapForest, Tree.parents_mapForest] at same
  exact same

/-- What can be told from the names in a listing is the same for a layout and its request. -/
theorem layeredLayout_listing {β : Type} (f : Tree.Entry NodeNames → β)
    (laidOut : layeredLayout layering g = .ok placed) :
    ((Tree.listing placed.children).map fun e => f (e.map fun u => u.value.names)) =
      (Tree.listing g.children).map fun e => f (e.map fun t => t.value.names) := by
  have same := congrArg (fun ts => (Tree.listing ts).map f) (layeredLayout_names laidOut)
  simpa only [placedNames, requestedNames, Tree.listing_mapForest, List.map_map, Function.comp_def] using same

/-- A layout has a node for every node of the request, in the same order and with the same id. -/
theorem layeredLayout_ids (laidOut : layeredLayout layering g = .ok placed) :
    (Tree.preorderForest placed.children).map (·.value.id) = (Tree.preorderForest g.children).map (·.value.id) := by
  have same := congrArg (fun ts => (Tree.preorderForest ts).map (·.value.id)) (layeredLayout_names laidOut)
  simpa [placedNames, requestedNames, Tree.preorderForest_mapForest, Function.comp_def] using same

/-- The ports of a layout have the ids that were asked for. -/
theorem layeredLayout_portIds (laidOut : layeredLayout layering g = .ok placed) :
    ((Tree.preorderForest placed.children).flatMap fun u => u.value.ports.map PositionedPort.id) =
      (Tree.preorderForest g.children).flatMap fun t => t.value.ports.map LayoutPort.id := by
  have same := congrArg (fun ts => (Tree.preorderForest ts).flatMap (·.value.ports)) (layeredLayout_names laidOut)
  simpa [placedNames, requestedNames, Tree.preorderForest_mapForest, List.flatMap_map, Function.comp_def] using same

/-- A placed node has the names of some node of the request. -/
theorem exists_sameNames (laidOut : layeredLayout layering g = .ok placed) {u : Tree (PositionedNode α)}
    (mem : u ∈ Tree.preorderForest placed.children) :
    ∃ t ∈ Tree.preorderForest g.children, t.value.names = u.value.names := by
  have same := congrArg (fun ts => (Tree.preorderForest ts).map Tree.value) (layeredLayout_names laidOut)
  simp only [placedNames, requestedNames, Tree.preorderForest_mapForest, List.map_map] at same
  have isName : u.value.names ∈ (Tree.preorderForest placed.children).map
      (Tree.value ∘ Tree.mapTree fun u => u.value.names) :=
    List.mem_map.mpr ⟨u, mem, Tree.mapTree_value _ u⟩
  rw [same] at isName
  obtain ⟨t, isNode, sameNames⟩ := List.mem_map.mp isName
  exact ⟨t, isNode, (Tree.mapTree_value _ t).symm.trans sameNames⟩

end Layout

/-! ### The walk over a layout -/

mutual

theorem walkTree_listing (parent : Option Nat) :
    ∀ (origin : Point α) (depth position : Nat) (t : Tree (PositionedNode α)),
      (walkTree origin depth t).map (fun v => (v.node, v.depth)) =
        (Tree.listTree depth parent position t).map fun e => (e.tree, e.depth)
  | origin, depth, position, .node n cs => by
      rw [walkTree, Tree.listTree, List.map_cons, List.map_cons,
        walkForest_listing (some position) _ (depth + 1) (position + 1) cs]

theorem walkForest_listing (parent : Option Nat) :
    ∀ (origin : Point α) (depth position : Nat) (ts : List (Tree (PositionedNode α))),
      (walkForest origin depth ts).map (fun v => (v.node, v.depth)) =
        (Tree.listForest depth parent position ts).map fun e => (e.tree, e.depth)
  | origin, depth, position, [] => by
      rw [walkForest, Tree.listForest, List.map_nil, List.map_nil]
  | origin, depth, position, t :: ts => by
      rw [walkForest, Tree.listForest, List.map_append, List.map_append, walkTree_listing parent origin depth position t,
        walkForest_listing parent origin depth (position + Tree.count t) ts]

end

/-- A walk visits the nodes of a layout as they are listed, each at the depth that it is listed with. -/
theorem PositionedGraph.walk_listing (g : PositionedGraph α) :
    g.walk.map (fun v => (v.node, v.depth)) = (Tree.listing g.children).map fun e => (e.tree, e.depth) :=
  walkForest_listing none Point.origin 0 0 g.children

end BoxDiagram
