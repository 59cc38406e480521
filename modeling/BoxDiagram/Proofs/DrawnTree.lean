/-
Module: BoxDiagram.Proofs.DrawnTree
Purpose: The tree of boxes on its way from a document to a drawing.  The layout request, the layout and the walk over it
  have the boxes in the same order, at the same depth and inside the same boxes, and in a diagram without faults every
  node is drawn as the box it comes from.
Main exports: lowerBoxes_depths, KeepsTree, DrawsBoxes, tree_drawn, nestedDocument_drawn
-/
import BoxDiagram.Document.Parse
import BoxDiagram.Proofs.DeclaredBoxes
import BoxDiagram.Proofs.DrawnBoxes
import BoxDiagram.Proofs.DrawnEdges

namespace BoxDiagram

/-! ### Depths in a document -/

/-- A box states as its depth the number of boxes around it. -/
theorem lowerBoxes_depths (bs : List RawBox) :
    ∀ e ∈ Tree.listing (lowerBoxes 0 bs), e.tree.value.depth = e.depth := by
  intro e mem
  have outermost := (lowerBoxes_denote 0 bs).denoted
  exact (Tree.listForest_inherits Denoted.children 0 none 0 _ outermost e mem).depth

/-- The boxes of a diagram that was read state their depths, however texts are read. -/
theorem parseDiagram_depths {ε : Type} {read : String → Except ε (RawDocument Float32)} {source : String}
    {d : Diagram Float32} (parsed : parseDiagram read source = .ok d) :
    ∀ e ∈ Tree.listing d.boxes, e.tree.value.depth = e.depth := by
  rw [parseDiagram] at parsed
  cases found : read source with
  | error fault =>
      rw [found] at parsed
      cases parsed
  | ok raw =>
      rw [found] at parsed
      cases parsed
      exact lowerBoxes_depths raw.boxes

/-! ### From boxes to nodes -/

section Stages

variable {α κ : Type} [Scalar α] [NumberText α]

/-- The tree of boxes is kept by a request and by a layout: the same ids in the same order at the same depths, each
inside the same one, and the same ones with others inside them. -/
structure KeepsTree (d : Diagram α) (request : LayoutGraph α) (placed : PositionedGraph α) : Prop where
  requestIds : request.allNodes.map (fun u => u.value.id) = d.allBoxes.map fun t => t.value.id.text
  visits : placed.walk.map (fun v => (v.node.value.id, v.depth)) =
    d.allBoxes.map fun t => (t.value.id.text, t.value.depth)
  requestParents : Tree.parents request.children = Tree.parents d.boxes
  placedParents : Tree.parents placed.children = Tree.parents d.boxes
  requestCompounds : request.allNodes.map Tree.isCompound = d.allBoxes.map Tree.isCompound
  placedCompounds : placed.walk.map (fun v => v.node.isCompound) = d.allBoxes.map Tree.isCompound

/-- Every node of a layout finds the box it comes from and is drawn as this box, the containers and the leaves each in
the order of the boxes. -/
structure DrawsBoxes [Metric α] (d : Diagram α) (placed : PositionedGraph α) : Prop where
  found : placed.walk.map (fun v => (BoxIndex.ofForest d.boxes).get? v.node.value.id) = d.allBoxes.map some
  containers (style : DrawingStyle α) : List.Forall₂ (DrawnBox d style) (d.allBoxes.filter Tree.isCompound)
    ((draw d style placed).toSvg.layerContent "container")
  leaves (style : DrawingStyle α) : List.Forall₂ (DrawnBox d style) (d.allBoxes.filter fun t => !t.isCompound)
    ((draw d style placed).toSvg.layerContent "node")

variable [Coordinate κ] {layering : Layering κ} {d : Diagram α} {config : LayoutConfig α} {placed : PositionedGraph α}

/-- A walk comes past the request of a box: the node has the names that were asked for, and others inside it just when
the box has. -/
structure AskedBy (flow : FlowDirection) (t : Tree Box) (v : Visit α) : Prop where
  names : v.node.value.names = (nodeRequest flow t : LayoutNode α).names
  compound : v.node.isCompound = t.isCompound

/-- The walk over a layout comes past the boxes in their order, at their depths in the tree. -/
theorem walk_listing_askedBy (laidOut : layeredLayout layering (layoutRequest d config) = .ok placed) :
    List.Forall₂ (fun e v => AskedBy d.flow e.tree v ∧ v.depth = e.depth) (Tree.listing d.boxes) placed.walk := by
  let facts : Tree.Entry NodeNames → NodeNames × Bool × Nat := fun e => (e.tree.value, e.tree.isCompound, e.depth)
  have visits : (placed.walk.map fun v => (v.node.value.names, v.node.isCompound, v.depth)) =
      (Tree.listing placed.children).map fun e => facts (e.map fun u => u.value.names) := by
    have walk := congrArg (List.map fun entry => (entry.1.value.names, entry.1.isCompound, entry.2)) placed.walk_listing
    simpa [facts, Tree.Entry.map, Function.comp_def] using walk
  have boxes : ((Tree.listing (layoutRequest d config).children).map fun e => facts (e.map fun u => u.value.names)) =
      (Tree.listing d.boxes).map fun e =>
        ((nodeRequest (α := α) d.flow e.tree).names, e.tree.isCompound, e.depth) := by
    rw [layoutRequest, Tree.listing_mapForest, List.map_map]
    exact List.map_congr_left fun e _ => by simp [facts, Tree.Entry.map]
  have same := visits.trans ((layeredLayout_listing facts laidOut).trans boxes)
  rw [← List.forall₂_eq_eq_eq, List.forall₂_map_left_iff, List.forall₂_map_right_iff] at same
  refine (same.flip).imp fun e v here => ?_
  obtain ⟨names, compound, depth⟩ := Prod.mk.inj here |>.imp id Prod.mk.inj
  exact ⟨⟨names, compound⟩, depth⟩

/-- The walk over a layout comes past the boxes in their order. -/
theorem walk_askedBy (laidOut : layeredLayout layering (layoutRequest d config) = .ok placed) :
    List.Forall₂ (AskedBy d.flow) d.allBoxes placed.walk := by
  rw [Diagram.allBoxes, ← Tree.listing_trees, List.forall₂_map_left_iff]
  exact (walk_listing_askedBy laidOut).imp fun _ _ here => here.1

/-- If the boxes state their depths, the walk comes past them at the depths they state. -/
theorem walk_shownAt (depths : ∀ e ∈ Tree.listing d.boxes, e.tree.value.depth = e.depth)
    (laidOut : layeredLayout layering (layoutRequest d config) = .ok placed) :
    List.Forall₂ ShownAt d.allBoxes placed.walk := by
  have both := (List.forall₂_and_left _ _).mpr ⟨depths, walk_listing_askedBy laidOut⟩
  rw [Diagram.allBoxes, ← Tree.listing_trees, List.forall₂_map_left_iff]
  refine both.imp ?_
  rintro e v ⟨states, asked, depth⟩
  exact ⟨congrArg NodeNames.id asked.names, congrArg NodeNames.labels asked.names, depth.trans states.symm,
    asked.compound⟩

/-- The tree of boxes is kept by a layout of its request. -/
theorem layeredLayout_keepsTree (depths : ∀ e ∈ Tree.listing d.boxes, e.tree.value.depth = e.depth)
    (laidOut : layeredLayout layering (layoutRequest d config) = .ok placed) :
    KeepsTree d (layoutRequest d config) placed := by
  have shown := (walk_shownAt depths laidOut).flip
  have requestParents : Tree.parents (layoutRequest d config).children = Tree.parents d.boxes :=
    Tree.parents_mapForest _ _
  constructor
  · rw [LayoutGraph.allNodes_eq, layoutRequest_ids, Diagram.allBoxes, Tree.visit_eq_preorderForest]
  · rw [← List.forall₂_eq_eq_eq, List.forall₂_map_left_iff, List.forall₂_map_right_iff]
    exact shown.imp fun v t here => Prod.ext here.id here.depth
  · exact requestParents
  · exact (layeredLayout_parents laidOut).trans requestParents
  · rw [LayoutGraph.allNodes_eq, layoutRequest_nodes, List.map_map]
    exact List.map_congr_left fun t _ => Tree.isCompound_mapTree _ t
  · rw [← List.forall₂_eq_eq_eq, List.forall₂_map_left_iff, List.forall₂_map_right_iff]
    exact shown.imp fun v t here => here.compound

omit [NumberText α] in
/-- In a diagram without faults every node finds its own box. -/
theorem found_of_shownAt (valid : d.validate = []) (shown : List.Forall₂ ShownAt d.allBoxes placed.walk) :
    List.Forall₂ (fun t v => ShownAt t v ∧ (BoxIndex.ofForest d.boxes).get? v.node.value.id = some t)
      d.allBoxes placed.walk := by
  have both := (List.forall₂_and_left _ _).mpr ⟨fun t (mem : t ∈ d.allBoxes) => mem, shown⟩
  refine both.imp ?_
  rintro t v ⟨mem, here⟩
  refine ⟨here, ?_⟩
  rw [here.id]
  exact Diagram.index_get?_of_valid valid mem

variable [Metric α]

/-- A layer of boxes has the boxes that belong to it, each drawn as itself. -/
theorem boxes_drawn (valid : d.validate = []) (shown : List.Forall₂ ShownAt d.allBoxes placed.walk)
    (style : DrawingStyle α) (layer : Layer) (isBox : layer = .container ∨ layer = .node) {inLayer : Tree Box → Bool}
    (agrees : ∀ t v, ShownAt (α := α) t v → (inLayer t = true ↔ boxLayer v.node = layer)) :
    List.Forall₂ (DrawnBox d style) (d.allBoxes.filter inLayer) ((draw d style placed).toSvg.layerContent layer.name) := by
  rw [draw_boxes isBox, List.forall₂_map_right_iff]
  have alike : ∀ t (v : Visit α), ShownAt t v ∧ (BoxIndex.ofForest d.boxes).get? v.node.value.id = some t →
      (inLayer t = true ↔ decide (boxLayer v.node = layer) = true) := by
    intro t v both
    rw [agrees t v both.1, decide_eq_true_eq]
  have kept := List.rel_filter alike (found_of_shownAt valid shown)
  exact kept.imp fun t v both => (both.1.looksLike both.2).drawnBox

theorem drawsBoxes (valid : d.validate = []) (shown : List.Forall₂ ShownAt d.allBoxes placed.walk) :
    DrawsBoxes d placed := by
  constructor
  · rw [← List.forall₂_eq_eq_eq, List.forall₂_map_left_iff, List.forall₂_map_right_iff]
    exact (found_of_shownAt valid shown).flip.imp fun v t both => both.2
  · intro style
    refine boxes_drawn valid shown style .container (.inl rfl) fun t v here => ?_
    rw [boxLayer, here.compound]
    cases t.isCompound <;> simp
  · intro style
    refine boxes_drawn valid shown style .node (.inr rfl) fun t v here => ?_
    rw [boxLayer, here.compound]
    cases t.isCompound <;> simp

end Stages

/-! ### Main result -/

/-- The tree of boxes of a document is kept by the layout request and by every layout of it, and if the diagram has no
faults every node of the layout is drawn as the box it comes from.  The raw document in the text may be read in any
way. -/
theorem tree_drawn {ε κ : Type} [Coordinate κ] {layering : Layering κ}
    {read : String → Except ε (RawDocument Float32)} {source : String} {d : Diagram Float32}
    {config : LayoutConfig Float32} {placed : PositionedGraph Float32} (parsed : parseDiagram read source = .ok d)
    (laidOut : (LayoutEngine.layered layering).layout (layoutRequest d config) = .ok placed) :
    KeepsTree d (layoutRequest d config) placed ∧ (d.validate = [] → DrawsBoxes d placed) := by
  have depths := parseDiagram_depths parsed
  exact ⟨layeredLayout_keepsTree depths laidOut, fun valid => drawsBoxes valid (walk_shownAt depths laidOut)⟩

/-- A document with a box around two others and an actor, and with an edge between the inner two. -/
def nestedDocument : String :=
  "diagram: D
boxes:
  S:
    zoom: x
    children:
      A: { technology: Rust }
      B:
    actors:
      C:
edges:
  - { from: A, to: B }
"

/-- The boxes of the document are drawn. -/
theorem nestedDocument_drawn :
    ∃ d placed, parseDiagram readRawDocument nestedDocument = .ok d ∧
      (LayoutEngine.layered twoLayers).layout (layoutRequest d .standard) = .ok placed ∧ d.validate = [] ∧
      d.allBoxes.map (fun t => (t.value.name, t.value.depth)) = [("S", 0), ("A", 1), ("B", 1), ("C", 1)] ∧
      KeepsTree d (layoutRequest d .standard) placed ∧ DrawsBoxes d placed := by
  have checked : ((parseDiagram readRawDocument nestedDocument).toOption.any fun d =>
      ((LayoutEngine.layered twoLayers).layout (layoutRequest d .standard)).isOk && decide (d.validate = []) &&
      decide (d.allBoxes.map (fun t => (t.value.name, t.value.depth)) =
        [("S", 0), ("A", 1), ("B", 1), ("C", 1)])) = true := by
    decide +kernel
  obtain ⟨d, read, checks⟩ := (Option.any_eq_true _ _).mp checked
  simp only [Bool.and_eq_true, decide_eq_true_eq] at checks
  obtain ⟨⟨succeeds, valid⟩, boxes⟩ := checks
  have parsed := eq_ok_of_toOption_eq_some read
  obtain ⟨placed, laidOut⟩ := exists_eq_ok_of_isOk succeeds
  obtain ⟨keeps, draws⟩ := tree_drawn parsed laidOut
  exact ⟨d, placed, parsed, laidOut, valid, boxes, keeps, draws valid⟩

end BoxDiagram
