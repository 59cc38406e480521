/-
Module: BoxDiagram.Proofs.RequestNodes
Purpose: The nodes of a layout request and their ports, told by the boxes they are built from.
Main exports: layoutRequest_nodes, layoutRequest_ids, layoutRequest_portOwners, LayoutGraph.portNode?,
  LayoutGraph.findPort?_eq_bind
-/
import BoxDiagram.Layout.Request
import BoxDiagram.Proofs.Paths

namespace BoxDiagram

/-! ### Finding a port -/

namespace LayoutGraph

variable {α : Type}

theorem allNodes_eq (g : LayoutGraph α) : g.allNodes = Tree.preorderForest g.children := by
  rw [allNodes, Tree.flatMap_visit_singleton]

/-- The first node that has a port with this id. -/
def portNode? (g : LayoutGraph α) (id : String) : Option (Tree (LayoutNode α)) :=
  g.allNodes.find? fun t => t.value.ports.any fun p => p.id = id

/-- The port found under an id is the first one with this id at the first node that has one. -/
theorem findPort?_eq_bind (g : LayoutGraph α) (id : String) :
    g.findPort? id = (g.portNode? id).bind fun t => t.value.ports.find? fun p => p.id = id := by
  rw [findPort?, portNode?]
  induction g.allNodes with
  | nil => rfl
  | cons t ts ih =>
      rw [List.flatMap_cons, List.find?_append, ih, List.find?_cons]
      cases here : t.value.ports.find? fun p => p.id = id with
      | some p =>
          have sameId : p.id = id := by simpa using List.find?_some here
          have hasPort : (t.value.ports.any fun p => p.id = id) = true :=
            List.any_eq_true.mpr ⟨p, List.mem_of_find?_eq_some here, decide_eq_true sameId⟩
          rw [hasPort, Option.bind_some, here, Option.some_or]
      | none =>
          have noPort : (t.value.ports.any fun p => p.id = id) = false :=
            List.any_eq_false.mpr (List.find?_eq_none.mp here)
          rw [noPort, Option.none_or]

end LayoutGraph

/-! ### Nodes from boxes -/

variable {α : Type} [Scalar α] [NumberText α]

/-- The node of a box, with the nodes of the boxes inside it. -/
def boxNode (flow : FlowDirection) (t : Tree Box) : Tree (LayoutNode α) := Tree.mapTree (nodeRequest flow) t

@[simp] theorem boxNode_id (flow : FlowDirection) (t : Tree Box) :
    (boxNode flow t : Tree (LayoutNode α)).value.id = t.value.id.text := by
  rw [boxNode, Tree.mapTree_value, nodeRequest]

@[simp] theorem boxNode_ports (flow : FlowDirection) (t : Tree Box) :
    (boxNode flow t : Tree (LayoutNode α)).value.ports = t.value.ports.map (portRequest t.value flow) := by
  rw [boxNode, Tree.mapTree_value, nodeRequest]

variable (d : Diagram α) (config : LayoutConfig α)

/-- There is one node for every box, in the order of the boxes. -/
theorem layoutRequest_nodes :
    Tree.preorderForest (layoutRequest d config).children = d.allBoxes.map (boxNode d.flow) := by
  rw [Diagram.allBoxes, Tree.visit_eq_preorderForest]
  exact Tree.preorderForest_mapForest _ _

/-- A node has the id of its box. -/
theorem layoutRequest_ids :
    ((Tree.preorderForest (layoutRequest d config).children).map fun u => u.value.id) =
      (Tree.preorderForest d.boxes).map fun t => t.value.id.text := by
  rw [layoutRequest_nodes, Diagram.allBoxes, Tree.visit_eq_preorderForest, List.map_map]
  exact List.map_congr_left fun t _ => boxNode_id d.flow t

/-- The ids of the ports of a box, each with the id of the box. -/
def boxPortIds (t : Tree Box) : List (String × String) :=
  t.value.ports.map fun p => ((t.value.id.port p.id).text, t.value.id.text)

theorem mem_boxPortIds_iff {t : Tree Box} {id owner : String} :
    (id, owner) ∈ boxPortIds t ↔
      (∃ p ∈ t.value.ports, (t.value.id.port p.id).text = id) ∧ t.value.id.text = owner := by
  simp only [boxPortIds, List.mem_map, Prod.mk.injEq]
  constructor
  · rintro ⟨p, isPort, sameId, sameOwner⟩
    exact ⟨⟨p, isPort, sameId⟩, sameOwner⟩
  · rintro ⟨⟨p, isPort, sameId⟩, sameOwner⟩
    exact ⟨p, isPort, sameId, sameOwner⟩

/-- The ports of a node are owned by the box it is built from. -/
theorem layoutRequest_portOwners :
    Hierarchy.portOwners (layoutRequest d config).children = d.allBoxes.flatMap boxPortIds := by
  rw [Hierarchy.portOwners, layoutRequest_nodes, List.flatMap_map]
  apply List.flatMap_congr
  intro t _
  rw [boxNode_ports, boxNode_id, List.map_map]
  rfl

/-- A branch of boxes is a branch of nodes. -/
theorem layoutRequest_branch {path : List (Tree Box)} {t : Tree Box} (b : Tree.Branch d.boxes path t) :
    Tree.Branch (layoutRequest d config).children (path.map (boxNode d.flow)) (boxNode d.flow t) :=
  b.mapForest (nodeRequest d.flow)

theorem idsAlong_boxNode (flow : FlowDirection) (path : List (Tree Box)) :
    idsAlong (path.map (boxNode (α := α) flow)) = path.map fun t => t.value.id.text := by
  rw [idsAlong, List.map_map]
  exact List.map_congr_left fun t _ => boxNode_id flow t

end BoxDiagram
