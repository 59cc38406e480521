/-
Module: BoxDiagram.Proofs.DrawnContent
Purpose: The layers of the content of a drawing: lines are in the layer of edges and nowhere else, and the layer of
  labels holds the labels in the order of their edges.
Main exports: placeLabels, drawContent_inLayer_edge, drawContent_inLayer_label, line?_eq_none_of_inLayer
-/
import BoxDiagram.Drawing.Canvas
import BoxDiagram.Proofs.LayerGroups

namespace BoxDiagram

variable {α : Type} [Scalar α]

/-- The line that an item is. -/
def DrawnItem.line? : DrawnItem α → Option (EdgeLine α)
  | .line l => some l
  | _ => none

/-- The two items of a label: the rectangle, and directly over it the text. -/
def LabelShape.items (l : LabelShape α) : List (DrawnItem α) := [.labelBack l, .labelText l]

section Edges

variable [Metric α]

/-- The labels of edges that are drawn one after the other, for each edge the one it gets.  The rectangle of every
label is taken for the edges that follow. -/
def placeLabels (placed : PlacedRects α) : List (EdgePaint α) → List (Option (LabelShape α))
  | [] => []
  | p :: rest =>
      let label := p.placeLabel? placed
      label :: placeLabels (label.elim placed fun l => placed.push l.placement.rect) rest

/-- An edge adds its lines and its label, and the rest is drawn with the rectangle of the label taken. -/
theorem drawEdges_cons (radius : α) (placed : PlacedRects α) (p : EdgePaint α) (rest : List (EdgePaint α)) :
    drawEdges radius placed (p :: rest) =
      ((LayeredOutput.ofLayer .edge ((p.edgeLines radius).map DrawnItem.line)).merge
        (LayeredOutput.ofLayer .label ((p.placeLabel? placed).elim [] LabelShape.items))).merge
          (drawEdges radius ((p.placeLabel? placed).elim placed fun l => placed.push l.placement.rect) rest) := by
  have lines : (p.edgeLines radius).map (fun line => (Layer.edge, DrawnItem.line line)) =
      ((p.edgeLines radius).map DrawnItem.line).map fun item => (Layer.edge, item) := List.map_map.symm
  rw [drawEdges, lines]
  cases p.placeLabel? placed with
  | none =>
      simp only [Option.elim_none, LayeredOutput.ofLayer, LayeredOutput.merge, List.map_nil, List.append_nil]
  | some label => rfl

/-- Drawing edges puts their lines into the layer of edges. -/
theorem drawEdges_inLayer_edge (radius : α) (placed : PlacedRects α) (edges : List (EdgePaint α)) :
    (drawEdges radius placed edges).inLayer .edge =
      edges.flatMap fun p => (p.edgeLines radius).map DrawnItem.line := by
  induction edges generalizing placed with
  | nil => rfl
  | cons p rest ih =>
      rw [drawEdges_cons, LayeredOutput.inLayer_merge, LayeredOutput.inLayer_merge, LayeredOutput.inLayer_ofLayer,
        LayeredOutput.inLayer_ofLayer_of_ne (by decide), List.append_nil, ih, List.flatMap_cons]

/-- Drawing edges puts their labels into the layer of labels. -/
theorem drawEdges_inLayer_label (radius : α) (placed : PlacedRects α) (edges : List (EdgePaint α)) :
    (drawEdges radius placed edges).inLayer .label =
      (placeLabels placed edges).flatMap fun label => label.elim [] LabelShape.items := by
  induction edges generalizing placed with
  | nil => rfl
  | cons p rest ih =>
      rw [drawEdges_cons, LayeredOutput.inLayer_merge, LayeredOutput.inLayer_merge, LayeredOutput.inLayer_ofLayer,
        LayeredOutput.inLayer_ofLayer_of_ne (by decide), List.nil_append, ih, placeLabels, List.flatMap_cons]

/-- Drawing edges puts nothing into any other layer. -/
theorem drawEdges_inLayer_other (radius : α) (placed : PlacedRects α) (edges : List (EdgePaint α)) {layer : Layer}
    (notEdge : layer ≠ .edge) (notLabel : layer ≠ .label) : (drawEdges radius placed edges).inLayer layer = [] := by
  induction edges generalizing placed with
  | nil => rfl
  | cons p rest ih =>
      rw [drawEdges_cons, LayeredOutput.inLayer_merge, LayeredOutput.inLayer_merge,
        LayeredOutput.inLayer_ofLayer_of_ne notEdge, LayeredOutput.inLayer_ofLayer_of_ne notLabel, ih]
      rfl

end Edges

/-! ### The whole content -/

/-- The layer of the box of a node: one with others inside it lies lower. -/
def boxLayer (t : Tree (PositionedNode α)) : Layer := if t.isCompound then .container else .node

theorem boxShape_layer (t : Tree (PositionedNode α)) (model : Option (Tree Box)) (paint : BoxPaint α)
    (origin : Point α) : (boxShape t model paint origin).1 = boxLayer t := by
  unfold boxShape boxLayer
  split
  · rfl
  · cases model with
    | none => rfl
    | some m =>
        dsimp only
        split <;> rfl

omit [Scalar α] in
theorem boxLayer_cases (t : Tree (PositionedNode α)) : boxLayer t = .container ∨ boxLayer t = .node := by
  unfold boxLayer
  split
  · exact .inl rfl
  · exact .inr rfl

/-- The box of a node and its ports lie below the layers of edges and labels. -/
theorem layer_of_drawNode {d : Diagram α} {index : BoxIndex} {colours : ColourTable} {v : Visit α}
    {i : Layer × DrawnItem α} (mem : i ∈ (drawNode d index colours v).items) :
    i.1 ≠ .edge ∧ i.1 ≠ .label ∧ i.2.line? = none := by
  rw [drawNode] at mem
  rcases List.mem_cons.mp mem with rfl | isPorts
  · dsimp only
    rw [boxShape_layer]
    rcases boxLayer_cases v.node with isContainer | isNode
    · rw [isContainer]
      exact ⟨Layer.noConfusion, Layer.noConfusion, rfl⟩
    · rw [isNode]
      exact ⟨Layer.noConfusion, Layer.noConfusion, rfl⟩
  · obtain ⟨shapes, -, rfl⟩ := List.mem_map.mp isPorts
    exact ⟨Layer.noConfusion, Layer.noConfusion, rfl⟩

/-- The boxes and ports of a drawing. -/
def drawnNodes (d : Diagram α) (style : DrawingStyle α) (g : PositionedGraph α) : LayeredOutput (DrawnItem α) :=
  .concat (g.walk.map (drawNode d (BoxIndex.ofForest d.boxes) style.colours))

variable {d : Diagram α} {style : DrawingStyle α} {g : PositionedGraph α}

theorem layer_of_drawnNodes {i : Layer × DrawnItem α} (mem : i ∈ (drawnNodes d style g).items) :
    i.1 ≠ .edge ∧ i.1 ≠ .label ∧ i.2.line? = none := by
  obtain ⟨o, isDrawn, here⟩ := List.mem_flatMap.mp mem
  obtain ⟨v, -, rfl⟩ := List.mem_map.mp isDrawn
  exact layer_of_drawNode here

theorem drawnNodes_inLayer_edge : (drawnNodes d style g).inLayer .edge = [] :=
  List.eq_nil_iff_forall_not_mem.mpr fun _ mem => (layer_of_drawnNodes (LayeredOutput.mem_inLayer.mp mem)).1 rfl

theorem drawnNodes_inLayer_label : (drawnNodes d style g).inLayer .label = [] :=
  List.eq_nil_iff_forall_not_mem.mpr fun _ mem => (layer_of_drawnNodes (LayeredOutput.mem_inLayer.mp mem)).2.1 rfl

variable [Metric α] {edges : List (EdgePaint α)}

theorem drawContent_inLayer (layer : Layer) :
    (drawContent d style g edges).inLayer layer =
      (drawnNodes d style g).inLayer layer ++
        (drawEdges style.cornerRadius ⟨titleStrips g, style.labelPadding⟩ edges).inLayer layer :=
  LayeredOutput.inLayer_merge _ _ layer

/-- The layer of edges holds the lines of all edges in order. -/
theorem drawContent_inLayer_edge :
    (drawContent d style g edges).inLayer .edge =
      edges.flatMap fun p => (p.edgeLines style.cornerRadius).map DrawnItem.line := by
  rw [drawContent_inLayer, drawnNodes_inLayer_edge, drawEdges_inLayer_edge, List.nil_append]

/-- The layer of labels holds the labels of all edges in order. -/
theorem drawContent_inLayer_label :
    (drawContent d style g edges).inLayer .label =
      (placeLabels ⟨titleStrips g, style.labelPadding⟩ edges).flatMap fun label => label.elim [] LabelShape.items := by
  rw [drawContent_inLayer, drawnNodes_inLayer_label, drawEdges_inLayer_label, List.nil_append]

/-- There are no lines outside the layer of edges. -/
theorem line?_eq_none_of_inLayer {layer : Layer} (notEdge : layer ≠ .edge) {item : DrawnItem α}
    (mem : item ∈ (drawContent d style g edges).inLayer layer) : item.line? = none := by
  rw [drawContent_inLayer] at mem
  rcases List.mem_append.mp mem with inNodes | inEdges
  · exact (layer_of_drawnNodes (LayeredOutput.mem_inLayer.mp inNodes)).2.2
  · rcases eq_or_ne layer .label with rfl | notLabel
    · rw [drawEdges_inLayer_label] at inEdges
      obtain ⟨label, -, isItem⟩ := List.mem_flatMap.mp inEdges
      cases label with
      | none => exact absurd isItem List.not_mem_nil
      | some l =>
          rcases List.mem_cons.mp isItem with rfl | isText
          · rfl
          · rw [List.mem_singleton.mp isText]
            rfl
    · rw [drawEdges_inLayer_other _ _ _ notEdge notLabel] at inEdges
      exact absurd inEdges List.not_mem_nil

end BoxDiagram
