/-
Module: BoxDiagram.Proofs.DrawnBoxes
Purpose: The boxes in the document of a drawing.  Nodes with others inside them are in the layer of containers and all
  other nodes in the layer of nodes, in the order of a walk.  A node that a box is found for is drawn as this box: in
  its colours, with its line width and with its texts.
Main exports: nodeShape, drawnNodes_inLayer, draw_boxes, Box.texts, boxFill, boxStroke, DrawnBox, ShownAt,
  ShownAt.looksLike
-/
import BoxDiagram.Proofs.DrawnDocument

namespace BoxDiagram

/-! ### The layers of boxes -/

section Layers

variable {α : Type} [Scalar α] {d : Diagram α} {style : DrawingStyle α}

/-- The shape of a node in a drawing of a diagram. -/
def nodeShape (d : Diagram α) (style : DrawingStyle α) (v : Visit α) : BoxShape α :=
  let model := (BoxIndex.ofForest d.boxes).get? v.node.value.id
  (boxShape v.node model (BoxPaint.of model d.style v.depth style.colours.paint) v.origin).2

/-- But for its ports, a node adds its shape to the layer of its box and nothing else. -/
theorem drawNode_inLayer {layer : Layer} (notPort : layer ≠ .port) (v : Visit α) :
    (drawNode d (BoxIndex.ofForest d.boxes) style.colours v).inLayer layer =
      if boxLayer v.node = layer then [.box (nodeShape d style v)] else [] := by
  rw [LayeredOutput.inLayer, drawNode, List.filter_cons]
  have noPorts : ∀ shapes : Option (PortShapes α),
      (shapes.toList.map fun p => (Layer.port, DrawnItem.ports p)).filter (fun i => i.1 == layer) = [] := by
    intro shapes
    refine List.filter_eq_nil_iff.mpr fun i mem => ?_
    obtain ⟨p, -, rfl⟩ := List.mem_map.mp mem
    simpa using notPort.symm
  dsimp only
  rw [boxShape_layer, noPorts]
  by_cases here : boxLayer v.node = layer
  · simp [here, nodeShape]
  · simp [here]

variable {g : PositionedGraph α}

/-- But for the ports, the nodes of a layout add their shapes to the layers of their boxes, in the order of a walk. -/
theorem drawnNodes_inLayer {layer : Layer} (notPort : layer ≠ .port) :
    (drawnNodes d style g).inLayer layer =
      (g.walk.filter fun v => boxLayer v.node = layer).map fun v => .box (nodeShape d style v) := by
  rw [drawnNodes, LayeredOutput.inLayer_concat, List.flatMap_map]
  induction g.walk with
  | nil => rfl
  | cons v rest ih =>
      rw [List.flatMap_cons, drawNode_inLayer notPort, ih, List.filter_cons]
      by_cases here : boxLayer v.node = layer
      · simp [here]
      · simp [here]

variable [Metric α] [NumberText α]

/-- The two layers of boxes hold the shapes of their nodes, in the order of a walk. -/
theorem draw_boxes {layer : Layer} (isBox : layer = .container ∨ layer = .node) :
    (draw d style g).toSvg.layerContent layer.name =
      (g.walk.filter fun v => boxLayer v.node = layer).map fun v => (nodeShape d style v).toSvg := by
  have others : layer ≠ .background ∧ layer ≠ .port ∧ layer ≠ .edge ∧ layer ≠ .label ∧ layer ≠ .legend := by
    rcases isBox with rfl | rfl <;> decide
  obtain ⟨notBackground, notPort, notEdge, notLabel, notLegend⟩ := others
  rw [draw_layerContent layer notBackground notLegend, drawContent_inLayer, drawEdges_inLayer_other _ _ _ notEdge notLabel,
    List.append_nil, drawnNodes_inLayer notPort, List.map_map]
  rfl

end Layers

/-! ### What a box looks like -/

namespace Box

/-- The texts that a box shows.  A frame shows its label and the reference to a more detailed diagram, a full leaf the
lines of its label and the reference, and any other leaf its name, its technology, the lines of its description and the
reference. -/
def texts (t : Tree Box) : List String :=
  let b := t.value
  if t.isCompound then
    (if b.label.isEmpty then [] else [String.join (Text.lines b.label)]) ++ b.zoom.toList.map ("→ Zoom in: " ++ ·)
  else if isFull t then Text.lines b.label ++ b.zoom.toList.map ("→ " ++ ·)
  else
    (if b.name.isEmpty then [] else [b.name]) ++ b.technology.toList.map (fun name => "[" ++ name ++ "]") ++
      b.description.elim [] Text.lines ++ b.zoom.toList.map ("→ " ++ ·)

/-- A compact actor without a fill of its own has the fill of actors. -/
def hasActorFill (t : Tree Box) : Bool :=
  !t.isCompound && !isFull t && t.value.isActor && t.value.style.background.isNone

end Box

section Looks

variable {α : Type} [NumberText α]

/-! ### Elements of a shape -/

theorem named_text_caption (c : Caption α) : c.toSvg.named "text" = [c.toSvg] := rfl

theorem named_text_block (b : TextBlock α) : b.toSvg.named "text" = [b.toSvg] := by
  rw [TextBlock.toSvg, Svg.textElement, Svg.Node.named, if_pos rfl, namedIn_lines (by decide), List.append_nil]

/-- A shape has one rectangle, its outline. -/
theorem BoxShape.named_rect (s : BoxShape α) : s.toSvg.named "rect" = [s.outline.toSvg] := by
  have titles : Svg.Node.namedIn "rect" (s.title.toList.map TextBlock.toSvg) = [] := by
    refine Svg.Node.namedIn_eq_nil fun n mem => ?_
    obtain ⟨title, -, rfl⟩ := List.mem_map.mp mem
    exact named_textBlock (by decide) (by decide) title
  have captions : Svg.Node.namedIn "rect" (s.captions.map Caption.toSvg) = [] := by
    refine Svg.Node.namedIn_eq_nil fun n mem => ?_
    obtain ⟨caption, -, rfl⟩ := List.mem_map.mp mem
    exact named_caption (by decide) caption
  rw [BoxShape.toSvg, Svg.group, Svg.Node.named_element (by decide), Svg.Node.namedIn_append, captions, List.append_nil,
    Svg.Node.namedIn, titles, List.append_nil]
  rfl

/-- The texts of a shape are its title and its captions. -/
theorem BoxShape.named_text (s : BoxShape α) :
    s.toSvg.named "text" = s.title.toList.map TextBlock.toSvg ++ s.captions.map Caption.toSvg := by
  have titles : Svg.Node.namedIn "text" (s.title.toList.map TextBlock.toSvg) = s.title.toList.map TextBlock.toSvg := by
    rw [Svg.Node.namedIn_eq_flatMap, List.flatMap_map, List.map_eq_flatMap]
    exact List.flatMap_congr fun title _ => named_text_block title
  have captions : Svg.Node.namedIn "text" (s.captions.map Caption.toSvg) = s.captions.map Caption.toSvg := by
    rw [Svg.Node.namedIn_eq_flatMap, List.flatMap_map, List.map_eq_flatMap]
    exact List.flatMap_congr fun caption _ => named_text_caption caption
  have outline : s.outline.toSvg.named "text" = [] := rfl
  rw [BoxShape.toSvg, Svg.group, Svg.Node.named_element (by decide), Svg.Node.namedIn_append, captions, Svg.Node.namedIn,
    titles, outline, List.nil_append]

/-- A shape shows its title and its captions. -/
theorem BoxShape.shown_texts (s : BoxShape α) :
    (s.toSvg.named "text").map Svg.Node.shown =
      (s.title.toList.map fun title => String.join title.lines) ++ s.captions.map Caption.content := by
  rw [s.named_text, List.map_append, List.map_map, List.map_map]
  simp only [Function.comp_def, shown_textBlock, shown_caption]

/-! ### The look of a box -/

variable [Scalar α]

/-- The fill of a box: that of actors, or what the colour name of the box or of its depth stands for, or this name
itself. -/
def boxFill (d : Diagram α) (style : DrawingStyle α) (t : Tree Box) : String :=
  if Box.hasActorFill t then actorFill
  else
    let name := t.value.style.background.getD (d.style.background t.value.depth)
    ((style.colours.resolve name).map Colour.text).getD name

/-- The line colour of a box: what its colour name or the default one stands for, or this name itself. -/
def boxStroke (style : DrawingStyle α) (t : Tree Box) : String :=
  let name := t.value.style.colour.getD defaultStroke
  ((style.colours.resolve name).map Colour.text).getD name

/-- The element of a box in a document: one outline in the colours of the box and with the line width of its depth, and
the texts of the box. -/
structure DrawnBox (d : Diagram α) (style : DrawingStyle α) (t : Tree Box) (element : Svg.Node) : Prop where
  outline : ∃ rect, element.named "rect" = [rect] ∧ rect.attribute? "fill" = some (boxFill d style t) ∧
    rect.attribute? "stroke" = some (boxStroke style t) ∧
    rect.attribute? "stroke-width" = some (NumberText.print (d.style.borderWeight t.value.depth))
  texts : (element.named "text").map Svg.Node.shown = Box.texts t

/-- A shape in the colours and with the texts of a box. -/
structure LooksLike (d : Diagram α) (style : DrawingStyle α) (t : Tree Box) (s : BoxShape α) : Prop where
  fill : s.outline.fill = boxFill d style t
  stroke : s.outline.stroke = boxStroke style t
  strokeWidth : s.outline.strokeWidth = d.style.borderWeight t.value.depth
  texts : (s.title.toList.map fun title => String.join title.lines) ++ s.captions.map Caption.content = Box.texts t

theorem LooksLike.drawnBox {d : Diagram α} {style : DrawingStyle α} {t : Tree Box} {s : BoxShape α}
    (like : LooksLike d style t s) : DrawnBox d style t s.toSvg := by
  constructor
  · refine ⟨_, s.named_rect, ?_, ?_, ?_⟩
    · rw [← like.fill]
      rfl
    · rw [← like.stroke]
      rfl
    · rw [← like.strokeWidth]
      rfl
  · rw [s.shown_texts, like.texts]

omit [NumberText α]

/-! ### Texts of a shape -/

theorem compoundTitle_contents (paint : BoxPaint α) (label : String) :
    ((compoundTitle paint label).toList.map fun title => String.join title.lines) =
      if label.isEmpty then [] else [String.join (Text.lines label)] := by
  cases empty : label.isEmpty <;> simp [compoundTitle, empty]

theorem compoundZoom_contents (label : String) (zoom : Option String) :
    (compoundZoom (α := α) label zoom).map Caption.content = zoom.toList.map ("→ Zoom in: " ++ ·) := by
  cases zoom <;> rfl

theorem fullCaptions_contents (size : Size α) (paint : BoxPaint α) (label : String) (zoom : Option String) :
    (fullCaptions size paint label zoom).map Caption.content = Text.lines label ++ zoom.toList.map ("→ " ++ ·) := by
  have lines : ((Text.lines label).zipIdx.map fun entry : String × Nat => entry.1) = Text.lines label :=
    List.zipIdx_map_fst 0 _
  simp [fullCaptions, Caption.centred, Function.comp_def, lines]

theorem compactCaptions_contents (width : α) (paint : BoxPaint α) (b : Box) :
    (compactCaptions width paint b).map Caption.content =
      (if b.name.isEmpty then [] else [b.name]) ++ b.technology.toList.map (fun name => "[" ++ name ++ "]") ++
        b.description.elim [] Text.lines ++ b.zoom.toList.map ("→ " ++ ·) := by
  have lines : ((b.description.elim [] Text.lines).zipIdx.map fun entry : String × Nat => entry.1) =
      b.description.elim [] Text.lines := List.zipIdx_map_fst 0 _
  cases empty : b.name.isEmpty <;>
    simp [compactCaptions, nameCaption, captionsBelow, Caption.centred, Function.comp_def, lines, empty]

/-! ### The three shapes -/

section Shapes

variable (d : Diagram α) (style : DrawingStyle α) {t : Tree Box}

/-- Colours and line width of a box. -/
def boxPaint (t : Tree Box) : BoxPaint α := .of (some t) d.style t.value.depth style.colours.paint

theorem compoundShape_looksLike (isCompound : t.isCompound = true) {n : PositionedNode α}
    (labels : n.labels = [t.value.label]) (origin : Point α) :
    LooksLike d style t (compoundShape n (some t) (boxPaint d style t) origin) := by
  have plain : Box.hasActorFill t = false := by simp [Box.hasActorFill, isCompound]
  refine ⟨?_, style.colours.paint_eq _, rfl, ?_⟩
  · rw [boxFill, plain]
    exact style.colours.paint_eq _
  · rw [compoundShape, labels, List.headD_cons, Box.texts, isCompound, if_pos rfl, compoundTitle_contents,
      compoundZoom_contents]
    rfl

theorem fullShape_looksLike (isFull : Box.isFull t = true) (isLeaf : t.isCompound = false) (n : PositionedNode α)
    (origin : Point α) : LooksLike d style t (fullShape n t.value (boxPaint d style t) origin) := by
  have plain : Box.hasActorFill t = false := by simp [Box.hasActorFill, isFull]
  refine ⟨?_, style.colours.paint_eq _, rfl, ?_⟩
  · rw [boxFill, plain]
    exact style.colours.paint_eq _
  · rw [Box.texts, isLeaf, if_neg Bool.false_ne_true, isFull, if_pos rfl]
    exact fullCaptions_contents _ _ _ _

theorem compactShape_looksLike (notFull : Box.isFull t = false) (isLeaf : t.isCompound = false) (n : PositionedNode α)
    (origin : Point α) : LooksLike d style t (compactShape n (some t) (boxPaint d style t) origin) := by
  refine ⟨?_, style.colours.paint_eq _, rfl, ?_⟩
  · have actors : Box.hasActorFill t = (t.value.isActor && !t.value.style.background.isSome) := by
      simp [Box.hasActorFill, isLeaf, notFull]
    rw [boxFill, actors, ← style.colours.paint_eq]
    rfl
  · rw [Box.texts, isLeaf, if_neg Bool.false_ne_true, notFull, if_neg Bool.false_ne_true]
    exact compactCaptions_contents _ _ _

end Shapes

/-! ### A node drawn as a box -/

omit [Scalar α] in
/-- A walk comes past a box: the node that is visited has the id, the label and the depth of the box, and it has others
inside it just when the box has. -/
structure ShownAt (t : Tree Box) (v : Visit α) : Prop where
  id : v.node.value.id = t.value.id.text
  labels : v.node.value.labels = [t.value.label]
  depth : v.depth = t.value.depth
  compound : v.node.isCompound = t.isCompound

variable {d : Diagram α} {style : DrawingStyle α} {t : Tree Box} {v : Visit α}

/-- The shape of a node looks like the box that is found for the node. -/
theorem ShownAt.looksLike (here : ShownAt t v) (found : (BoxIndex.ofForest d.boxes).get? v.node.value.id = some t) :
    LooksLike d style t (nodeShape d style v) := by
  have shape : nodeShape d style v = (boxShape v.node (some t) (boxPaint d style t) v.origin).2 := by
    rw [nodeShape, found, here.depth, boxPaint]
  rw [shape, boxShape, here.compound]
  cases isCompound : t.isCompound with
  | true => exact compoundShape_looksLike d style isCompound here.labels v.origin
  | false =>
      cases isFull : Box.isFull t with
      | true => simpa [isFull] using fullShape_looksLike d style isFull isCompound v.node.value v.origin
      | false => simpa [isFull] using compactShape_looksLike d style isFull isCompound v.node.value v.origin

end Looks

end BoxDiagram
