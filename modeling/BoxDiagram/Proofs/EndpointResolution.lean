/-
Module: BoxDiagram.Proofs.EndpointResolution
Purpose: What the ends of edges stand for in a layout request.  In a diagram without faults an end reaches the box
  and the port it names exactly if no port of another box has its id: ids of boxes and ids of ports are joined
  from texts, and validation compares ids of boxes only.
Main exports: Reaches, OnlyOwnPorts, Diagram.endpoint_reaches_iff, Diagram.ends_captured_by_ports
-/
import BoxDiagram.Proofs.RequestNodes
import BoxDiagram.Proofs.ValidDiagram

namespace BoxDiagram

variable {α : Type} [Scalar α] [NumberText α]

/-- The end `e` of an edge stands for the box `t`, which `path` leads to, in the layout request. -/
structure Reaches (d : Diagram α) (config : LayoutConfig α) (e : EdgeEndpoint) (path : List (Tree Box))
    (t : Tree Box) : Prop where
  /-- The id of the end has the path of the node of the box. -/
  path_eq : (layoutRequest d config).hierarchy.pathOf? e.nodeId.text =
    some (idsAlong (path.map (boxNode d.flow : Tree Box → Tree (LayoutNode α))))
  /-- It counts as the id of a port exactly if the end names one. -/
  isPort_eq : (layoutRequest d config).hierarchy.isPort e.nodeId.text = e.port.isSome
  /-- The port found under it is the named one, and it is found at the node of the box. -/
  port_eq : ∀ portId, e.port = some portId → ∃ p, t.value.port? portId = some p ∧
    (layoutRequest d config).portNode? e.nodeId.text = some (boxNode d.flow t) ∧
    (layoutRequest d config).findPort? e.nodeId.text = some (portRequest t.value d.flow p)

/-- No port of a box other than the one that the end names has the id of the end. -/
def OnlyOwnPorts (d : Diagram α) (e : EdgeEndpoint) : Prop :=
  ∀ u ∈ d.allBoxes, ∀ p ∈ u.value.ports, u.value.id.port p.id = e.nodeId → u.value.id = e.boxId

instance (d : Diagram α) (e : EdgeEndpoint) : Decidable (OnlyOwnPorts d e) :=
  inferInstanceAs (Decidable (∀ u ∈ d.allBoxes, ∀ p ∈ u.value.ports,
    u.value.id.port p.id = e.nodeId → u.value.id = e.boxId))

/-! ### Ids of ports -/

/-- Does a box have a port with this global id? -/
def hasPortId (id : String) (t : Tree Box) : Bool :=
  t.value.ports.any fun p => (t.value.id.port p.id).text = id

theorem hasPortId_iff {id : String} {t : Tree Box} :
    hasPortId id t = true ↔ ∃ p ∈ t.value.ports, (t.value.id.port p.id).text = id := by
  simp only [hasPortId, List.any_eq_true, decide_eq_true_eq]

omit [NumberText α] in
/-- Looking for the global id of a port among the ports of its own box is looking for its local id. -/
theorem find?_portRequest (b : Box) (flow : FlowDirection) (portId : String) :
    ((b.ports.map (portRequest b flow)).find? fun p : LayoutPort α => p.id = (b.id.port portId).text) =
      (b.port? portId).map (portRequest b flow) := by
  rw [Box.port?, List.find?_map]
  congr 2
  funext p
  rw [Function.comp_apply, portRequest, decide_eq_decide]
  constructor
  · intro sameText
    exact b.id.port_injective (Identifier.text_injective sameText)
  · intro sameId
    rw [sameId]

namespace Diagram

variable {d : Diagram α} {config : LayoutConfig α} {e : EdgeEndpoint} {path : List (Tree Box)} {t : Tree Box}

/-! ### Paths of ids -/

theorem lastValue?_requestPaths (valid : d.validate = []) (b : Tree.Branch d.boxes path t) :
    lastValue? t.value.id.text (layoutRequest d config).hierarchy.paths =
      some (idsAlong (path.map (boxNode d.flow : Tree Box → Tree (LayoutNode α)))) := by
  have nodup : ((Tree.preorderForest (layoutRequest d config).children).map fun u => u.value.id).Nodup := by
    rw [layoutRequest_ids]
    exact ids_nodup_of_valid valid
  have found := Hierarchy.lastValue?_paths nodup (layoutRequest_branch d config b)
  rwa [boxNode_id] at found

/-- The path of an id that a port has is that of the last box with such a port. -/
theorem pathOf?_of_owner (valid : d.validate = []) (b : Tree.Branch d.boxes path t) {id : String}
    (owner : lastValue? id (d.allBoxes.flatMap boxPortIds) = some t.value.id.text) :
    (layoutRequest d config).hierarchy.pathOf? id =
      some (idsAlong (path.map (boxNode d.flow : Tree Box → Tree (LayoutNode α)))) := by
  rw [Hierarchy.pathOf?, LayoutGraph.hierarchy, Hierarchy.ofForest, layoutRequest_portOwners, owner,
    Option.getD_some]
  exact lastValue?_requestPaths valid b

/-- The path of an id that no port has is that of the box with the id. -/
theorem pathOf?_of_no_owner (valid : d.validate = []) (b : Tree.Branch d.boxes path t)
    (noOwner : lastValue? t.value.id.text (d.allBoxes.flatMap boxPortIds) = none) :
    (layoutRequest d config).hierarchy.pathOf? t.value.id.text =
      some (idsAlong (path.map (boxNode d.flow : Tree Box → Tree (LayoutNode α)))) := by
  rw [Hierarchy.pathOf?, LayoutGraph.hierarchy, Hierarchy.ofForest, layoutRequest_portOwners, noOwner,
    Option.getD_none]
  exact lastValue?_requestPaths valid b

theorem isPort_request (id : String) :
    (layoutRequest d config).hierarchy.isPort id =
      (lastValue? id (d.allBoxes.flatMap boxPortIds)).isSome := by
  rw [Hierarchy.isPort, LayoutGraph.hierarchy, Hierarchy.ofForest, layoutRequest_portOwners]

/-- The id at the end of a path tells the box. -/
theorem id_eq_of_idsAlong_eq {path' : List (Tree Box)} {u : Tree Box} (b : Tree.Branch d.boxes path t)
    (b' : Tree.Branch d.boxes path' u)
    (same : idsAlong (path.map (boxNode d.flow : Tree Box → Tree (LayoutNode α))) =
      idsAlong (path'.map (boxNode d.flow : Tree Box → Tree (LayoutNode α)))) :
    t.value.id = u.value.id := by
  rw [idsAlong_boxNode, idsAlong_boxNode] at same
  have sameLast := congrArg List.getLast? same
  rw [List.getLast?_map, List.getLast?_map, b.getLast?_eq, b'.getLast?_eq] at sameLast
  exact Identifier.text_injective (Option.some.inj sameLast)

/-! ### The node of a port -/

theorem portNode?_request (id : String) :
    (layoutRequest d config).portNode? id =
      (d.allBoxes.find? (hasPortId id)).map (boxNode d.flow) := by
  rw [LayoutGraph.portNode?, LayoutGraph.allNodes_eq, layoutRequest_nodes, List.find?_map]
  congr 2
  funext t
  rw [Function.comp_apply, boxNode_ports, List.any_map]
  rfl

/-- The port of an end is found at its box if the box is the first one with such a port. -/
theorem findPort?_of_portNode {portId : String} (sameId : t.value.id = e.boxId)
    (named : e.port = some portId)
    (node : (layoutRequest d config).portNode? e.nodeId.text = some (boxNode d.flow t)) :
    (layoutRequest d config).findPort? e.nodeId.text =
      (t.value.port? portId).map (portRequest t.value d.flow) := by
  rw [LayoutGraph.findPort?_eq_bind, node, Option.bind_some, boxNode_ports,
    EdgeEndpoint.nodeId_of_port named, ← sameId]
  exact find?_portRequest t.value d.flow portId

/-! ### From the condition to the answer -/

omit [Scalar α] [NumberText α] in
theorem lastValue?_ports_eq_none_iff {id : String} :
    lastValue? id (d.allBoxes.flatMap boxPortIds) = none ↔
      ∀ u ∈ d.allBoxes, ∀ p ∈ u.value.ports, (u.value.id.port p.id).text ≠ id := by
  rw [lastValue?_eq_none_iff]
  constructor
  · intro noEntry u inBoxes p isPort sameId
    have entry : (id, u.value.id.text) ∈ boxPortIds u := mem_boxPortIds_iff.mpr ⟨⟨p, isPort, sameId⟩, rfl⟩
    exact noEntry _ (List.mem_flatMap.mpr ⟨u, inBoxes, entry⟩) rfl
  · rintro noPort ⟨key, owner⟩ entry rfl
    obtain ⟨u, inBoxes, here⟩ := List.mem_flatMap.mp entry
    obtain ⟨⟨p, isPort, sameId⟩, -⟩ := mem_boxPortIds_iff.mp here
    exact noPort u inBoxes p isPort sameId

/-- An end without a port reaches its box when no port has the id of the box. -/
theorem reaches_of_no_port (valid : d.validate = []) (b : Tree.Branch d.boxes path t)
    (sameId : t.value.id = e.boxId) (plain : e.port = none) (own : OnlyOwnPorts d e) :
    Reaches d config e path t := by
  have boxIsEnd : e.nodeId = t.value.id := by rw [EdgeEndpoint.nodeId_of_no_port plain, sameId]
  have noOwner : lastValue? t.value.id.text (d.allBoxes.flatMap boxPortIds) = none := by
    rw [lastValue?_ports_eq_none_iff]
    intro u inBoxes p isPort sameText
    have hasId : u.value.id.port p.id = t.value.id := Identifier.text_injective sameText
    have itsBox : u.value.id = t.value.id := by
      rw [own u inBoxes p isPort (hasId.trans boxIsEnd.symm), sameId]
    exact Identifier.port_ne_self _ _ (hasId.trans itsBox.symm)
  refine ⟨?_, ?_, ?_⟩
  · rw [boxIsEnd]
    exact pathOf?_of_no_owner valid b noOwner
  · rw [isPort_request, boxIsEnd, noOwner, plain, Option.isSome_none]
  · intro portId named
    rw [plain] at named
    exact absurd named.symm (Option.some_ne_none _)

/-- An end with a port reaches its box and the port when only ports of the box have the id of the end. -/
theorem reaches_of_port (valid : d.validate = []) (b : Tree.Branch d.boxes path t)
    (sameId : t.value.id = e.boxId) {portId : String} (named : e.port = some portId) {p : Port}
    (found : t.value.port? portId = some p) (own : OnlyOwnPorts d e) :
    Reaches d config e path t := by
  have inBoxes : t ∈ d.allBoxes := by
    rw [allBoxes, Tree.visit_eq_preorderForest]
    exact b.mem_preorderForest
  have hasPort : ∃ q ∈ t.value.ports, (t.value.id.port q.id).text = e.nodeId.text := by
    have itsId : p.id = portId := by simpa using List.find?_some found
    refine ⟨p, List.mem_of_find?_eq_some found, ?_⟩
    rw [EdgeEndpoint.nodeId_of_port named, sameId, itsId]
  -- Any entry for the id comes from the box itself, so the last one does.
  have owner : lastValue? e.nodeId.text (d.allBoxes.flatMap boxPortIds) = some t.value.id.text := by
    apply lastValue?_eq_some_of_unique
    · exact List.mem_flatMap.mpr ⟨t, inBoxes, mem_boxPortIds_iff.mpr ⟨hasPort, rfl⟩⟩
    · intro other entry
      obtain ⟨u, inBoxes', here⟩ := List.mem_flatMap.mp entry
      obtain ⟨⟨q, isPort, sameText⟩, rfl⟩ := mem_boxPortIds_iff.mp here
      rw [own u inBoxes' q isPort (Identifier.text_injective sameText), sameId]
  have node : (layoutRequest d config).portNode? e.nodeId.text = some (boxNode d.flow t) := by
    rw [portNode?_request]
    have here : hasPortId e.nodeId.text t = true := hasPortId_iff.mpr hasPort
    obtain ⟨u, first⟩ := Option.isSome_iff_exists.mp (List.find?_isSome.mpr ⟨t, inBoxes, here⟩)
    obtain ⟨q, isPort, sameText⟩ := hasPortId_iff.mp (List.find?_some first)
    have inBoxes' := List.mem_of_find?_eq_some first
    have itsBox := own u inBoxes' q isPort (Identifier.text_injective sameText)
    rw [first, box_unique_of_valid valid inBoxes' inBoxes (itsBox.trans sameId.symm)]
    rfl
  refine ⟨?_, ?_, ?_⟩
  · exact pathOf?_of_owner valid b owner
  · rw [isPort_request, owner, named, Option.isSome_some, Option.isSome_some]
  · intro portId' named'
    obtain rfl : portId = portId' := Option.some.inj (named.symm.trans named')
    refine ⟨p, found, node, ?_⟩
    rw [findPort?_of_portNode sameId named node, found]
    rfl

/-! ### From the answer to the condition -/

/-- If the first box with a port of some id is `t`, no box before it has such a port. -/
theorem not_before_of_portNode {before after : List (Tree Box)} (valid : d.validate = [])
    (split : d.allBoxes = before ++ t :: after) {id : String}
    (node : (layoutRequest d config).portNode? id = some (boxNode d.flow t))
    {u : Tree Box} (isBefore : u ∈ before) {p : Port} (isPort : p ∈ u.value.ports) :
    (u.value.id.port p.id).text ≠ id := by
  intro sameText
  rw [portNode?_request, split, List.find?_append] at node
  have here : hasPortId id u = true := hasPortId_iff.mpr ⟨p, isPort, sameText⟩
  obtain ⟨w, first⟩ := Option.isSome_iff_exists.mp (List.find?_isSome.mpr ⟨u, isBefore, here⟩)
  rw [first, Option.some_or] at node
  have sameNode : boxNode d.flow w = (boxNode d.flow t : Tree (LayoutNode α)) := Option.some.inj node
  have sameId : w.value.id.text = t.value.id.text := by
    rw [← boxNode_id (α := α) d.flow w, ← boxNode_id (α := α) d.flow t, sameNode]
  have nodup := ids_nodup_of_valid valid
  rw [← Tree.visit_eq_preorderForest, ← allBoxes, split, List.map_append, List.map_cons] at nodup
  have apart := (List.nodup_append.mp nodup).2.2
  exact apart _ (List.mem_map_of_mem (List.mem_of_find?_eq_some first)) _ List.mem_cons_self sameId

/-- If the path of an id is that of the box `t`, no box after it has a port with the id. -/
theorem not_after_of_pathOf? {before after : List (Tree Box)} (valid : d.validate = [])
    (split : d.allBoxes = before ++ t :: after) (b : Tree.Branch d.boxes path t) {id : String}
    (itsPath : (layoutRequest d config).hierarchy.pathOf? id =
      some (idsAlong (path.map (boxNode d.flow : Tree Box → Tree (LayoutNode α)))))
    {u : Tree Box} (isAfter : u ∈ after) {p : Port} (isPort : p ∈ u.value.ports) :
    (u.value.id.port p.id).text ≠ id := by
  intro sameText
  have entry : (id, u.value.id.text) ∈ after.flatMap boxPortIds :=
    List.mem_flatMap.mpr ⟨u, isAfter, mem_boxPortIds_iff.mpr ⟨⟨p, isPort, sameText⟩, rfl⟩⟩
  obtain ⟨owner, last⟩ := Option.isSome_iff_exists.mp (lastValue?_isSome_iff.mpr ⟨_, entry⟩)
  obtain ⟨w, isAfter', here⟩ := List.mem_flatMap.mp (mem_of_lastValue?_eq_some last)
  obtain ⟨-, rfl⟩ := mem_boxPortIds_iff.mp here
  have wholeLast : lastValue? id (d.allBoxes.flatMap boxPortIds) = some w.value.id.text := by
    rw [split, List.flatMap_append, List.flatMap_cons, ← List.append_assoc, lastValue?_append, last,
      Option.some_or]
  have inBoxes : w ∈ Tree.preorderForest d.boxes := by
    rw [← Tree.visit_eq_preorderForest, ← allBoxes, split]
    exact List.mem_append_right _ (List.mem_cons_of_mem _ isAfter')
  obtain ⟨path', b'⟩ := Tree.mem_preorderForest_iff.mp inBoxes
  have samePath := itsPath.symm.trans (pathOf?_of_owner valid b' wholeLast)
  have sameId := id_eq_of_idsAlong_eq b b' (Option.some.inj samePath)
  have nodup := ids_nodup_of_valid valid
  rw [← Tree.visit_eq_preorderForest, ← allBoxes, split, List.map_append, List.map_cons] at nodup
  have apart := (List.nodup_cons.mp (List.nodup_append.mp nodup).2.1).1
  rw [sameId] at apart
  exact apart (List.mem_map_of_mem isAfter')

/-- Where an end reaches its box, no other box has a port with the id of the end. -/
theorem onlyOwnPorts_of_reaches (valid : d.validate = []) (b : Tree.Branch d.boxes path t)
    (sameId : t.value.id = e.boxId) (reaches : Reaches d config e path t) : OnlyOwnPorts d e := by
  intro u inBoxes p isPort sameNode
  have sameText : (u.value.id.port p.id).text = e.nodeId.text := congrArg Identifier.text sameNode
  cases named : e.port with
  | none =>
      have noPort := reaches.isPort_eq
      rw [isPort_request, named, Option.isSome_none, Option.isSome_eq_false_iff, Option.isNone_iff_eq_none,
        lastValue?_ports_eq_none_iff] at noPort
      exact absurd sameText (noPort u inBoxes p isPort)
  | some portId =>
      obtain ⟨_, -, node, -⟩ := reaches.port_eq portId named
      have atBox : t ∈ d.allBoxes := by
        rw [allBoxes, Tree.visit_eq_preorderForest]
        exact b.mem_preorderForest
      -- A port of another box stands before the box or after it; the first and the last port with the id
      -- are at the box.
      obtain ⟨before, after, split⟩ := List.append_of_mem atBox
      have place := inBoxes
      rw [split] at place
      rcases List.mem_append.mp place with isBefore | isHere
      · exact absurd sameText (not_before_of_portNode valid split node isBefore isPort)
      · rcases List.mem_cons.mp isHere with rfl | isAfter
        · exact sameId
        · exact absurd sameText (not_after_of_pathOf? valid split b reaches.path_eq isAfter isPort)

/-! ### Main result -/

/-- In a diagram without faults every end of an edge names one box, and it reaches this box, with the port it
names, exactly if no port of another box has its id. -/
theorem endpoint_reaches_iff (config : LayoutConfig α) (valid : d.validate = []) (mem : e ∈ d.endpoints) :
    ∃ path t, Tree.Branch d.boxes path t ∧
      Tree.Branch (layoutRequest d config).children (path.map (boxNode d.flow)) (boxNode d.flow t) ∧
      t.value.id = e.boxId ∧ (∀ u ∈ d.allBoxes, u.value.id = e.boxId → u = t) ∧
      (Reaches d config e path t ↔ OnlyOwnPorts d e) := by
  obtain ⟨t, inBoxes, sameId, hasPort⟩ := exists_box_of_valid valid mem
  have inForest := inBoxes
  rw [allBoxes, Tree.visit_eq_preorderForest] at inForest
  obtain ⟨path, b⟩ := Tree.mem_preorderForest_iff.mp inForest
  refine ⟨path, t, b, layoutRequest_branch d config b, sameId, ?_, ?_⟩
  · intro u inBoxes' sameId'
    exact box_unique_of_valid valid inBoxes' inBoxes (sameId'.trans sameId.symm)
  · constructor
    · exact onlyOwnPorts_of_reaches valid b sameId
    · intro own
      cases named : e.port with
      | none => exact reaches_of_no_port valid b sameId named own
      | some portId =>
          obtain ⟨p, found⟩ := hasPort portId named
          exact reaches_of_port valid b sameId named found own

/-- Different names can give one id: the box `A B` and the port `B` of the box `A` share one, and so do the
port `C` of `A B` and the port `B_C` of `A`. -/
def sharedIds : Diagram Float32 :=
  { name := some "D"
    title := none
    flow := .leftToRight
    dpi := defaultDpi
    style := .plain
    boxes := [
      .node { (default : Box) with
        name := "A"
        ports := [⟨"B", .input, none, none⟩, ⟨"B_C", .input, none, none⟩] } [],
      .node { (default : Box) with
        name := "A B"
        ports := [⟨"C", .output, none, none⟩] } []]
    actors := []
    edges := [
      ⟨⟨"A B", none⟩, ⟨"A", some "B"⟩, none, none, .plain⟩,
      ⟨⟨"A", none⟩, ⟨"A B", some "C"⟩, none, none, .plain⟩]
    legend := ⟨[], false⟩
    metadata := none }

/-- The end `A:B` reaches its port although a box has the same id. -/
theorem port_reached_beside_box :
    sharedIds.validate = [] ∧ ⟨"A", some "B"⟩ ∈ sharedIds.endpoints ∧
      ∃ path t, t.value.id = ⟨"A"⟩ ∧ Reaches sharedIds .standard ⟨"A", some "B"⟩ path t := by
  have valid : sharedIds.validate = [] := by decide +kernel
  have mem : ⟨"A", some "B"⟩ ∈ sharedIds.endpoints := by decide +kernel
  have own : OnlyOwnPorts sharedIds ⟨"A", some "B"⟩ := by decide +kernel
  obtain ⟨path, t, -, -, sameId, -, reaches⟩ := endpoint_reaches_iff .standard valid mem
  exact ⟨valid, mem, path, t, sameId, reaches.mpr own⟩

/-- A diagram without faults in which two ends do not reach what they name: the id of the box `A B` is taken for
that of a port of `A`, and under the id of the port `C` of `A B` a port of `A` is found. -/
theorem ends_captured_by_ports :
    sharedIds.validate = [] ∧
      (layoutRequest sharedIds .standard).hierarchy.pathOf? "A_B" = some ["A"] ∧
      (layoutRequest sharedIds .standard).hierarchy.isPort "A_B" = true ∧
      ((layoutRequest sharedIds .standard).findPort? "A_B_C").map LayoutPort.label = some "B_C" ∧
      ¬ ∀ e ∈ sharedIds.endpoints, ∃ path t, t.value.id = e.boxId ∧ Reaches sharedIds .standard e path t := by
  have isPort : (layoutRequest sharedIds .standard).hierarchy.isPort "A_B" = true := by decide +kernel
  refine ⟨by decide +kernel, by decide +kernel, isPort, by decide +kernel, ?_⟩
  intro allReach
  have mem : ⟨"A B", none⟩ ∈ sharedIds.endpoints := by decide +kernel
  obtain ⟨path, t, -, reaches⟩ := allReach _ mem
  have sameId : (⟨"A B", none⟩ : EdgeEndpoint).nodeId.text = "A_B" := by decide +kernel
  have noPort := reaches.isPort_eq
  rw [sameId, isPort] at noPort
  exact absurd noPort (by decide)

end Diagram

end BoxDiagram
