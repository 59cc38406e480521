/-
Module: BoxDiagram.Proofs.PaintersOrder
Purpose: The order in which the content of a drawing is painted, whatever layout is drawn.  Frames come before leaves,
  leaves before ports, ports before the lines of edges and these before labels; what is around a node is painted before
  the node, and directly after the rectangle of a label comes its text.
Main exports: Svg.Node.contentGroup?, paintedBoxes, Tree.Around, PaintersOrder, draw_inPaintersOrder
-/
import BoxDiagram.Proofs.DrawnBoxes
import BoxDiagram.Proofs.PlacedTree
import Mathlib.Logic.Relation

namespace BoxDiagram

/-! ### The content of a document -/

namespace Svg.Node

def children : Node → List Node
  | text _ => []
  | element _ _ children => children

/-- The group of the content: the first child of a document that is moved as a whole. -/
def contentGroup? (document : Node) : Option Node :=
  document.children.find? fun n => (n.attribute? "transform").isSome

end Svg.Node

namespace LayeredOutput

variable {β γ : Type}

/-- The groups are in the order of their layers, and there is one for each layer. -/
theorem groups_ascending (o : LayeredOutput β) : o.groups.Pairwise fun a b => a.1.height < b.1.height := by
  rw [groups_eq]
  apply List.Pairwise.filter
  rw [List.pairwise_map]
  exact Layer.all_ascending

/-- Applying a function changes nothing about the groups but what is in them. -/
theorem groups_map (f : β → γ) (o : LayeredOutput β) : (o.map f).groups = o.groups.map fun g => (g.1, g.2.map f) := by
  simp [groups_eq, List.filter_map, Function.comp_def]

/-- One after the other, the groups hold the things of all layers. -/
theorem flatMap_snd_groups (o : LayeredOutput β) : o.groups.flatMap (·.2) = Layer.all.flatMap o.inLayer :=
  flatMap_groups o fun _ => rfl

end LayeredOutput

/-! ### Surrounding nodes -/

/-- In the listing of a forest the entry at position `i` is around the one at position `j`, directly or not. -/
def Tree.Around {β : Type} (forest : List (Tree β)) : ℕ → ℕ → Prop :=
  Relation.TransGen fun i j => (Tree.parents forest)[j]? = some (some i)

section Walk

variable {α : Type} [Scalar α] {g : PositionedGraph α} {i j : ℕ}

/-- A walk comes past the node directly around another one before it comes past this one. -/
theorem before_of_parent (parent : (Tree.parents g.children)[j]? = some (some i)) :
    i < j ∧ ∀ v, g.walk[i]? = some v → v.node.isCompound = true := by
  rw [Tree.parents, List.getElem?_map] at parent
  obtain ⟨e, found, isParent⟩ := Option.map_eq_some_iff.mp parent
  rcases Tree.listing_surrounded found with ⟨-, outermost, -⟩ | ⟨k, above, before, foundAbove, inside, isChild, -⟩
  · rw [isParent] at outermost
    cases outermost
  · rw [isParent] at inside
    cases inside
    refine ⟨before, fun v visited => ?_⟩
    have same := congrArg (·[i]?) g.walk_listing
    simp only [List.getElem?_map, visited, foundAbove, Option.map_some, Option.some.injEq, Prod.mk.injEq] at same
    rw [same.1, Tree.isCompound_iff]
    exact List.ne_nil_of_mem isChild

/-- The same for all that is around a node. -/
theorem before_of_around (around : Tree.Around g.children i j) :
    i < j ∧ ∀ v, g.walk[i]? = some v → v.node.isCompound = true := by
  induction around with
  | single parent => exact before_of_parent parent
  | tail _ parent ih => exact ⟨Nat.lt_trans ih.1 (before_of_parent parent).1, ih.2⟩

end Walk

/-! ### Boxes -/

section Boxes

variable {α : Type} [Scalar α]

/-- The boxes of a drawing as they are painted, each with its position in the walk: those with others inside them first,
and then all others. -/
def paintedBoxes (g : PositionedGraph α) : List (Visit α × ℕ) :=
  (g.walk.zipIdx.filter fun b => b.1.node.isCompound) ++ g.walk.zipIdx.filter fun b => !b.1.node.isCompound

/-- Two elements of a list in their order. -/
theorem pair_sublist {β : Type} {xs : List β} {i j : ℕ} {a b : β} (before : i < j) (first : xs[i]? = some a)
    (second : xs[j]? = some b) : [a, b].Sublist xs := by
  have inFirst : a ∈ xs.take j := by
    apply List.mem_of_getElem? (i := i)
    rw [List.getElem?_take_of_lt before]
    exact first
  have inRest : b ∈ xs.drop j := by
    apply List.mem_of_getElem? (i := 0)
    rw [List.getElem?_drop]
    exact second
  have both := (List.singleton_sublist.mpr inFirst).append (List.singleton_sublist.mpr inRest)
  rw [List.take_append_drop] at both
  exact both

variable {g : PositionedGraph α} {i j : ℕ} {v w : Visit α}

/-- A frame is painted before every box after it in the walk. -/
theorem pair_sublist_paintedBoxes (before : i < j) (visited : g.walk[i]? = some v) (later : g.walk[j]? = some w)
    (isFrame : v.node.isCompound = true) : [(v, i), (w, j)].Sublist (paintedBoxes g) := by
  have first : g.walk.zipIdx[i]? = some (v, i) := by simp [visited]
  have second : g.walk.zipIdx[j]? = some (w, j) := by simp [later]
  cases compound : w.node.isCompound with
  | true =>
      have kept := (pair_sublist before first second).filter fun b => b.1.node.isCompound
      have both : [(v, i), (w, j)].filter (fun b => b.1.node.isCompound) = [(v, i), (w, j)] := by
        simp [isFrame, compound]
      rw [both] at kept
      exact kept.trans (List.sublist_append_left _ _)
  | false =>
      have frame : (v, i) ∈ g.walk.zipIdx.filter fun b => b.1.node.isCompound :=
        List.mem_filter.mpr ⟨List.mem_of_getElem? first, isFrame⟩
      have leaf : (w, j) ∈ g.walk.zipIdx.filter fun b => !b.1.node.isCompound :=
        List.mem_filter.mpr ⟨List.mem_of_getElem? second, by simp [compound]⟩
      exact (List.singleton_sublist.mpr frame).append (List.singleton_sublist.mpr leaf)

/-- Without their positions, the painted boxes are the frames of the walk and then its leaves. -/
theorem map_paintedBoxes {γ : Type} (f : Visit α → γ) :
    (paintedBoxes g).map (fun b => f b.1) =
      (g.walk.filter fun v => v.node.isCompound).map f ++ (g.walk.filter fun v => !v.node.isCompound).map f := by
  have unnumbered : g.walk = g.walk.zipIdx.map Prod.fst := (List.zipIdx_map_fst 0 _).symm
  rw [paintedBoxes, List.map_append]
  conv_rhs => rw [unnumbered, List.filter_map, List.filter_map, List.map_map, List.map_map]
  rfl

end Boxes

/-! ### The painted items -/

section Kinds

variable {α : Type}

theorem boxLayer_eq_container_iff (t : Tree (PositionedNode α)) : boxLayer t = .container ↔ t.isCompound = true := by
  cases compound : t.isCompound <;> simp [boxLayer, compound]

theorem boxLayer_eq_node_iff (t : Tree (PositionedNode α)) : boxLayer t = .node ↔ t.isCompound = false := by
  cases compound : t.isCompound <;> simp [boxLayer, compound]

/-- There are boxes in no other layer. -/
theorem boxLayer_ne (t : Tree (PositionedNode α)) {layer : Layer} (notContainer : layer ≠ .container)
    (notNode : layer ≠ .node) : boxLayer t ≠ layer := by
  rcases boxLayer_cases t with isContainer | isNode
  · simp [isContainer, notContainer.symm]
  · simp [isNode, notNode.symm]

/-- The item belongs to an edge: it is a line, or the rectangle or the text of a label. -/
def DrawnItem.isOfEdge : DrawnItem α → Bool
  | .box _ | .ports _ => false
  | .line _ | .labelBack _ | .labelText _ => true

theorem isOfEdge_of_mem_items {label : Option (LabelShape α)} {item : DrawnItem α}
    (mem : item ∈ label.elim [] LabelShape.items) : item.isOfEdge = true := by
  cases label with
  | none => cases mem
  | some l =>
      rcases List.mem_cons.mp mem with rfl | isText
      · rfl
      · rw [List.mem_singleton.mp isText]
        rfl

/-- In a list that begins with items of nodes and ends with items of edges, no item of a node is over one of an edge. -/
theorem pairwise_isOfEdge {xs ys : List (DrawnItem α)} (nodes : ∀ item ∈ xs, item.isOfEdge = false)
    (edges : ∀ item ∈ ys, item.isOfEdge = true) :
    (xs ++ ys).Pairwise fun lower upper => lower.isOfEdge = true → upper.isOfEdge = true := by
  rw [List.pairwise_append]
  refine ⟨?_, ?_, fun _ _ upper mem _ => edges upper mem⟩
  · exact List.pairwise_of_forall_mem_list fun lower mem _ _ isEdge => absurd isEdge (by simp [nodes lower mem])
  · exact List.pairwise_of_forall_mem_list fun _ _ upper mem _ => edges upper mem

end Kinds

section Items

variable {α : Type} [Scalar α]

/-- The circles for the ports of a node, if it has any. -/
def nodePorts (d : Diagram α) (style : DrawingStyle α) (v : Visit α) : Option (PortShapes α) :=
  portShapes v.node.value
    (BoxPaint.of ((BoxIndex.ofForest d.boxes).get? v.node.value.id) d.style v.depth style.colours.paint) v.origin

variable {d : Diagram α} {style : DrawingStyle α} {g : PositionedGraph α}

theorem drawNode_inLayer_port (v : Visit α) :
    (drawNode d (BoxIndex.ofForest d.boxes) style.colours v).inLayer .port =
      (nodePorts d style v).toList.map .ports := by
  have notPort : boxLayer v.node ≠ .port := boxLayer_ne v.node (by decide) (by decide)
  simp [LayeredOutput.inLayer, drawNode, boxShape_layer, notPort, nodePorts, List.filter_map, Function.comp_def]

/-- The layer of ports holds the ports of all nodes that have some, in the order of a walk. -/
theorem drawnNodes_inLayer_port :
    (drawnNodes d style g).inLayer .port = (g.walk.filterMap (nodePorts d style)).map .ports := by
  rw [drawnNodes, LayeredOutput.inLayer_concat, List.flatMap_map]
  induction g.walk with
  | nil => rfl
  | cons v rest ih =>
      rw [List.flatMap_cons, drawNode_inLayer_port, ih, List.filterMap_cons]
      cases nodePorts d style v <;> rfl

/-- The routed edges are prepared one by one. -/
theorem map_prepareEdges :
    (prepareEdges d style g).map EdgePaint.edge = g.edges.filter fun e => !e.sections.isEmpty := by
  rw [prepareEdges, List.map_map]
  exact List.map_id _

variable [Metric α]

theorem LabelShape.text_of_placeLabel? {p : EdgePaint α} {placed : PlacedRects α} {l : LabelShape α}
    (labelled : p.placeLabel? placed = some l) : p.labelText? = some l.text := by
  rw [EdgePaint.placeLabel?] at labelled
  split at labelled
  · rename_i text _ _ isText _
    cases labelled
    exact isText
  · cases labelled

/-- Every edge gets at most one label, with its own text. -/
theorem placeLabels_texts (placed : PlacedRects α) (edges : List (EdgePaint α)) :
    List.Forall₂ (fun p label => ∀ l, label = some l → p.labelText? = some l.text) edges
      (placeLabels placed edges) := by
  induction edges generalizing placed with
  | nil => exact .nil
  | cons p rest ih => exact .cons (fun l labelled => LabelShape.text_of_placeLabel? labelled) (ih _)

variable {edges : List (EdgePaint α)}

/-- A layer for neither ports nor edges holds the shapes of the boxes that belong to it. -/
theorem drawContent_inLayer_box {layer : Layer} (notPort : layer ≠ .port) (notEdge : layer ≠ .edge)
    (notLabel : layer ≠ .label) :
    (drawContent d style g edges).inLayer layer =
      (g.walk.filter fun v => boxLayer v.node = layer).map fun v => .box (nodeShape d style v) := by
  rw [drawContent_inLayer, drawnNodes_inLayer notPort, drawEdges_inLayer_other _ _ _ notEdge notLabel, List.append_nil]

theorem drawContent_inLayer_port :
    (drawContent d style g edges).inLayer .port = (g.walk.filterMap (nodePorts d style)).map .ports := by
  rw [drawContent_inLayer, drawnNodes_inLayer_port, drawEdges_inLayer_other _ _ _ (by decide) (by decide),
    List.append_nil]

/-- The content of a drawing, layer by layer. -/
theorem drawContent_layers :
    (Layer.all.flatMap (drawContent d style g edges).inLayer) =
      (paintedBoxes g).map (fun b => .box (nodeShape d style b.1)) ++
        (g.walk.filterMap (nodePorts d style)).map .ports ++
        (edges.flatMap fun p => (p.edgeLines style.cornerRadius).map .line) ++
        (placeLabels ⟨titleStrips g, style.labelPadding⟩ edges).flatMap
          fun label => label.elim [] LabelShape.items := by
  have background : (drawContent d style g edges).inLayer .background = [] := by
    simp [drawContent_inLayer_box, boxLayer_ne]
  have legend : (drawContent d style g edges).inLayer .legend = [] := by
    simp [drawContent_inLayer_box, boxLayer_ne]
  have boxes : (drawContent d style g edges).inLayer .container ++ (drawContent d style g edges).inLayer .node =
      (paintedBoxes g).map fun b => .box (nodeShape d style b.1) := by
    rw [map_paintedBoxes fun v => DrawnItem.box (nodeShape d style v)]
    simp [drawContent_inLayer_box, boxLayer_eq_container_iff, boxLayer_eq_node_iff]
  simp only [Layer.all, List.flatMap_cons, List.flatMap_nil, background, legend, drawContent_inLayer_port,
    drawContent_inLayer_edge, drawContent_inLayer_label, ← boxes, List.append_assoc, List.nil_append, List.append_nil]

/-! ### Main result -/

/-- The items of a drawing in the order in which they are painted. -/
structure PaintersOrder (d : Diagram α) (style : DrawingStyle α) (g : PositionedGraph α) (items : List (DrawnItem α)) :
    Prop where
  /-- The walk comes past all nodes, in preorder. -/
  walk : g.walk.map Visit.node = Tree.preorderForest g.children
  /-- The edges that are drawn are those with a route, in their order. -/
  edges : (prepareEdges d style g).map EdgePaint.edge = g.edges.filter fun e => !e.sections.isEmpty
  /-- First the boxes, then the ports in the order of the walk, then the lines of the edges and then their labels, each
  in the order of the edges.  A label is a rectangle and directly after it the text. -/
  layers : items = (paintedBoxes g).map (fun b => .box (nodeShape d style b.1)) ++
    (g.walk.filterMap (nodePorts d style)).map .ports ++
    ((prepareEdges d style g).flatMap fun p => (p.edgeLines style.cornerRadius).map .line) ++
    (placeLabels ⟨titleStrips g, style.labelPadding⟩ (prepareEdges d style g)).flatMap
      fun label => label.elim [] fun l => [.labelBack l, .labelText l]
  labels : List.Forall₂ (fun p label => ∀ l, label = some l → p.labelText? = some l.text) (prepareEdges d style g)
    (placeLabels ⟨titleStrips g, style.labelPadding⟩ (prepareEdges d style g))
  /-- Every node that the walk comes past is painted as one box. -/
  once : (paintedBoxes g).Perm g.walk.zipIdx
  /-- What is around a node is painted before the node. -/
  inside : ∀ i j v w, Tree.Around g.children i j → g.walk[i]? = some v → g.walk[j]? = some w →
    [(v, i), (w, j)].Sublist (paintedBoxes g)
  /-- No box and no port is painted over an item of an edge. -/
  uncovered : items.Pairwise fun lower upper => lower.isOfEdge = true → upper.isOfEdge = true

variable [NumberText α]

omit [Metric α] in
/-- The content group of a document is the only one that is moved. -/
theorem Drawing.contentGroup?_toSvg (drawing : Drawing α) :
    drawing.toSvg.contentGroup? =
      some (Svg.group [translation drawing.contentOrigin] (drawing.content.map DrawnItem.toSvg).render) := by
  have background : (drawing.background.render.find? fun n => (n.attribute? "transform").isSome) = none := by
    apply List.find?_eq_none.mpr
    intro n mem
    obtain ⟨group, -, rfl⟩ := List.mem_map.mp mem
    simp [Layer.group, Svg.group, Svg.Node.attribute?, List.lookup_cons]
  rw [Drawing.toSvg, Svg.document, Svg.Node.contentGroup?, Svg.Node.children, List.append_assoc, List.find?_append,
    background]
  rfl

/-- Every drawing is painted in order: the content group has one group for each layer that is used, from the bottom to
the top, and in these groups one after the other the items are in order. -/
theorem draw_inPaintersOrder (d : Diagram α) (style : DrawingStyle α) (g : PositionedGraph α) :
    ∃ groups : List (Layer × List (DrawnItem α)),
      (draw d style g).toSvg.contentGroup? = some (Svg.group [translation (draw d style g).contentOrigin]
        (groups.map fun group => group.1.group (group.2.map DrawnItem.toSvg))) ∧
      groups.Pairwise (fun a b => a.1.height < b.1.height) ∧ PaintersOrder d style g (groups.flatMap (·.2)) := by
  have layers := (LayeredOutput.flatMap_snd_groups (draw d style g).content).trans drawContent_layers
  refine ⟨(draw d style g).content.groups, ?_, LayeredOutput.groups_ascending _, ?_⟩
  · rw [Drawing.contentGroup?_toSvg, LayeredOutput.render, LayeredOutput.groups_map, List.map_map]
    rfl
  · refine ⟨walkForest_nodes _ _ _, map_prepareEdges, layers, placeLabels_texts _ _, List.filter_append_perm _ _, ?_,
      ?_⟩
    · intro i j v w around visited later
      obtain ⟨before, isFrame⟩ := before_of_around around
      exact pair_sublist_paintedBoxes before visited later (isFrame v visited)
    · rw [layers, List.append_assoc]
      apply pairwise_isOfEdge
      · simp only [List.forall_mem_append, List.forall_mem_map]
        exact ⟨fun _ _ => rfl, fun _ _ => rfl⟩
      · intro item mem
        rcases List.mem_append.mp mem with isLine | isLabel
        · obtain ⟨p, -, isLine⟩ := List.mem_flatMap.mp isLine
          obtain ⟨line, -, rfl⟩ := List.mem_map.mp isLine
          rfl
        · obtain ⟨label, -, isItem⟩ := List.mem_flatMap.mp isLabel
          exact isOfEdge_of_mem_items isItem

end Items

end BoxDiagram
