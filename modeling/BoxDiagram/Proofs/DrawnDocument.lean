/-
Module: BoxDiagram.Proofs.DrawnDocument
Purpose: The paths and the labels of the document of a drawing, whatever layout is drawn: the paths are the lines of
  the edges, and the layer of labels has a rectangle and a text for every label that was placed.
Main exports: LabelShape.elements, shown_textToSvg, draw_paths, Drawing.layerContent_toSvg, draw_layerContent,
  draw_labels
-/
import BoxDiagram.Proofs.DrawnContent
import BoxDiagram.Proofs.SvgQueries

namespace BoxDiagram

variable {α : Type} [NumberText α]

/-! ### Texts -/

@[simp] theorem shown_caption (c : Caption α) : c.toSvg.shown = c.content := by
  simp only [Caption.toSvg, Svg.textElement, Svg.Node.shown, Svg.Node.shownIn, String.empty_append, String.append_empty]

@[simp] theorem shown_textSpan (attributes : List (String × String)) (content : String) :
    (Svg.textSpan attributes content).shown = content := by
  simp only [Svg.textSpan, Svg.Node.shown, Svg.Node.shownIn, String.empty_append, String.append_empty]

/-- A block shows its lines one after the other. -/
@[simp] theorem shown_textBlock (b : TextBlock α) : b.toSvg.shown = String.join b.lines := by
  have spans : ∀ (lines : List String) (from' : Nat) (attributes : String × Nat → List (String × String)),
      Svg.Node.shownIn ((lines.zipIdx from').map fun entry => Svg.textSpan (attributes entry) entry.1) =
        String.join lines := by
    intro lines
    induction lines with
    | nil => exact fun _ _ => String.join_nil.symm
    | cons line rest ih =>
        intro from' attributes
        rw [List.zipIdx_cons, List.map_cons, Svg.Node.shownIn, shown_textSpan, ih, String.join_cons]
  rw [TextBlock.toSvg, Svg.textElement, Svg.Node.shown, Svg.Node.shownIn, Svg.Node.shown, String.empty_append]
  exact spans b.lines 0 _

/-- The text of a label shows its lines. -/
theorem shown_textToSvg [Scalar α] (l : LabelShape α) : l.textToSvg.shown = String.join (Text.lines l.text) := by
  rw [LabelShape.textToSvg]
  split
  · rename_i line lines
    rw [shown_caption, lines, String.join_cons, String.join_nil, String.append_empty]
  · rw [shown_textBlock]

section Named

variable {name : String}

theorem named_textSpan (notSpan : "tspan" ≠ name) (attributes : List (String × String)) (content : String) :
    (Svg.textSpan attributes content).named name = [] := by
  rw [Svg.textSpan, Svg.Node.named_element notSpan]
  rfl

theorem named_caption (notText : "text" ≠ name) (c : Caption α) : c.toSvg.named name = [] := by
  rw [Caption.toSvg, Svg.textElement, Svg.Node.named_element notText]
  rfl

theorem namedIn_lines (notSpan : "tspan" ≠ name) (b : TextBlock α) :
    Svg.Node.namedIn name (.text "" :: b.lines.zipIdx.map fun (line, i) =>
      Svg.textSpan [("x", NumberText.print b.x), ("dy", if i = 0 then "0" else toString b.step)] line) = [] := by
  refine Svg.Node.namedIn_eq_nil (List.forall_mem_cons.mpr ⟨rfl, fun n mem => ?_⟩)
  obtain ⟨line, -, rfl⟩ := List.mem_map.mp mem
  exact named_textSpan notSpan _ _

theorem named_textBlock (notText : "text" ≠ name) (notSpan : "tspan" ≠ name) (b : TextBlock α) :
    b.toSvg.named name = [] := by
  rw [TextBlock.toSvg, Svg.textElement, Svg.Node.named_element notText]
  exact namedIn_lines notSpan b

end Named

/-! ### Elements that are neither paths nor markers -/

/-- The names of the elements that everything but lines and arrowheads is drawn with. -/
def plainElements : List String := ["g", "rect", "circle", "text", "tspan"]

/-- The name of a special element is not that of a plain one. -/
theorem plain_ne {tag name : String} (plain : tag ∈ plainElements) (special : name ∉ plainElements) : tag ≠ name :=
  fun same => special (same ▸ plain)

section Plain

variable {name : String} (special : name ∉ plainElements)
include special

/-- A plain element without anything inside has no special element. -/
theorem named_plain {tag : String} (plain : tag ∈ plainElements) (attributes : List (String × String)) :
    Svg.Node.named name (.element tag attributes []) = [] := by
  rw [Svg.Node.named_element (plain_ne plain special), Svg.Node.namedIn]

variable [Scalar α]

/-- Only the line of an edge has a special element. -/
theorem named_item {item : DrawnItem α} (noLine : item.line? = none) : item.toSvg.named name = [] := by
  cases item with
  | box shape =>
      rw [DrawnItem.toSvg, BoxShape.toSvg, Svg.group, Svg.Node.named_element (plain_ne (by decide) special)]
      refine Svg.Node.namedIn_eq_nil fun n mem => ?_
      rcases List.mem_append.mp mem with inTitle | inCaptions
      · rcases List.mem_cons.mp inTitle with rfl | isTitle
        · exact named_plain special (by decide) _
        · obtain ⟨title, -, rfl⟩ := List.mem_map.mp isTitle
          exact named_textBlock (plain_ne (by decide) special) (plain_ne (by decide) special) title
      · obtain ⟨caption, -, rfl⟩ := List.mem_map.mp inCaptions
        exact named_caption (plain_ne (by decide) special) caption
  | ports shapes =>
      rw [DrawnItem.toSvg, PortShapes.toSvg, Svg.group, Svg.Node.named_element (plain_ne (by decide) special)]
      refine Svg.Node.namedIn_eq_nil fun n mem => ?_
      obtain ⟨center, -, rfl⟩ := List.mem_map.mp mem
      exact named_plain special (by decide) _
  | line l => exact absurd noLine (Option.some_ne_none l)
  | labelBack l => exact named_plain special (by decide) _
  | labelText l =>
      rw [DrawnItem.toSvg, LabelShape.textToSvg]
      split
      · exact named_caption (plain_ne (by decide) special) _
      · exact named_textBlock (plain_ne (by decide) special) (plain_ne (by decide) special) _

/-! ### Parts of a document that are not its content -/

theorem Drawing.namedIn_background (drawing : Drawing α) : Svg.Node.namedIn name drawing.background.render = [] := by
  refine LayeredOutput.namedIn_render_eq_nil (plain_ne (by decide) special) fun i mem => ?_
  obtain ⟨n, isNode, rfl⟩ := List.mem_map.mp mem
  rcases List.mem_append.mp isNode with isTop | isMetadata
  · rcases List.mem_cons.mp isTop with rfl | isTitle
    · exact named_plain special (by decide) _
    · obtain ⟨title, -, rfl⟩ := List.mem_map.mp isTitle
      exact named_caption (plain_ne (by decide) special) _
  · obtain ⟨summary, -, rfl⟩ := List.mem_map.mp isMetadata
    exact named_caption (plain_ne (by decide) special) _

theorem LegendPanel.namedIn_output (panel : LegendPanel α) : Svg.Node.namedIn name panel.output.render = [] := by
  refine LayeredOutput.namedIn_render_eq_nil (plain_ne (by decide) special) fun i mem => ?_
  obtain ⟨n, isNode, rfl⟩ := List.mem_map.mp mem
  rcases List.mem_append.mp isNode with isTop | isRow
  · rcases List.mem_cons.mp isTop with rfl | below
    · exact named_plain special (by decide) _
    · rcases List.mem_cons.mp below with rfl | isSwatch
      · exact named_caption (plain_ne (by decide) special) _
      · obtain ⟨swatch, -, rfl⟩ := List.mem_map.mp isSwatch
        exact named_plain special (by decide) _
  · obtain ⟨row, -, rfl⟩ := List.mem_map.mp isRow
    exact named_caption (plain_ne (by decide) special) row

/-- The special elements of a document are among the arrowheads and in the content. -/
theorem Drawing.named_toSvg (drawing : Drawing α) (notRoot : "svg" ≠ name) :
    drawing.toSvg.named name = (markerDefinitions drawing.markerColours).named name ++
      Svg.Node.namedIn name (drawing.content.map DrawnItem.toSvg).render := by
  have legend : Svg.Node.namedIn name (drawing.legend.elim [] fun panel => panel.output.render) = [] := by
    cases drawing.legend with
    | none => rfl
    | some panel => exact panel.namedIn_output special
  rw [Drawing.toSvg, Svg.document, Svg.Node.named_element notRoot, Svg.Node.namedIn_append,
    Svg.Node.namedIn_append, drawing.namedIn_background special, legend, List.nil_append, List.append_nil,
    Svg.Node.namedIn, Svg.Node.namedIn, Svg.Node.namedIn, List.append_nil,
    Svg.group, Svg.Node.named_element (plain_ne (by decide) special)]

end Plain

@[simp] theorem named_line (l : EdgeLine α) : l.toSvg.named "path" = [l.toSvg] := by
  rw [EdgeLine.toSvg, Svg.Node.named, if_pos rfl, Svg.Node.namedIn, List.append_nil]

theorem named_markerDefinitions (colours : List String) : (markerDefinitions colours).named "path" = [] := by
  rw [markerDefinitions, Svg.Node.named_element (by decide)]
  refine Svg.Node.namedIn_eq_nil fun n mem => ?_
  obtain ⟨colour, -, rfl⟩ := List.mem_map.mp mem
  rfl

theorem layerContent_markerDefinitions (layer : String) (colours : List String) :
    (markerDefinitions colours).layerContent layer = [] := by
  rw [markerDefinitions, Svg.Node.layerContent_element rfl, Svg.Node.layerContentIn_eq_flatMap,
    List.flatMap_eq_nil_iff]
  intro n mem
  obtain ⟨colour, -, rfl⟩ := List.mem_map.mp mem
  rfl

/-! ### The whole document -/

/-- A layer of a document has what the background, the content and the legend have in this layer. -/
theorem Drawing.layerContent_toSvg [Scalar α] (drawing : Drawing α) (layer : Layer) :
    drawing.toSvg.layerContent layer.name =
      drawing.background.inLayer layer ++ (drawing.content.inLayer layer).map DrawnItem.toSvg ++
        drawing.legend.elim [] fun panel => panel.output.inLayer layer := by
  have legend : Svg.Node.layerContentIn layer.name (drawing.legend.elim [] fun panel => panel.output.render) =
      drawing.legend.elim [] fun panel => panel.output.inLayer layer := by
    cases drawing.legend with
    | none => rfl
    | some panel => exact LayeredOutput.layerContentIn_render layer panel.output
  rw [Drawing.toSvg, Svg.document, Svg.Node.layerContent_element rfl, Svg.Node.layerContentIn_append,
    Svg.Node.layerContentIn_append, LayeredOutput.layerContentIn_render, legend, Svg.Node.layerContentIn,
    layerContent_markerDefinitions, List.nil_append, Svg.Node.layerContentIn, Svg.Node.layerContentIn, List.append_nil,
    Svg.group, Svg.Node.layerContent_element rfl, LayeredOutput.layerContentIn_render, LayeredOutput.inLayer_map]

variable [Scalar α] [Metric α] {d : Diagram α} {style : DrawingStyle α} {g : PositionedGraph α} {edges : List (EdgePaint α)}

/-- The paths of the content are the lines of the edges. -/
theorem drawContent_paths :
    Svg.Node.namedIn "path" ((drawContent d style g edges).map DrawnItem.toSvg).render =
      (edges.flatMap fun p => p.edgeLines style.cornerRadius).map EdgeLine.toSvg := by
  have noPaths : ∀ layer, layer ≠ .edge →
      Svg.Node.namedIn "path" (((drawContent d style g edges).map DrawnItem.toSvg).inLayer layer) = [] := by
    intro layer notEdge
    rw [LayeredOutput.inLayer_map]
    refine Svg.Node.namedIn_eq_nil fun n mem => ?_
    obtain ⟨item, inLayer, rfl⟩ := List.mem_map.mp mem
    exact named_item (by decide) (line?_eq_none_of_inLayer notEdge inLayer)
  have lines : Svg.Node.namedIn "path" (((drawContent d style g edges).map DrawnItem.toSvg).inLayer .edge) =
      (edges.flatMap fun p => p.edgeLines style.cornerRadius).map EdgeLine.toSvg := by
    rw [LayeredOutput.inLayer_map, drawContent_inLayer_edge, List.map_flatMap, List.map_flatMap,
      Svg.Node.namedIn_eq_flatMap, List.flatMap_assoc]
    refine List.flatMap_congr fun p _ => ?_
    rw [List.map_map, List.flatMap_map, List.map_eq_flatMap]
    exact List.flatMap_congr fun l _ => named_line l
  rw [LayeredOutput.namedIn_render (by decide)]
  simp only [Layer.all, List.flatMap_cons, List.flatMap_nil, lines, noPaths, ne_eq, reduceCtorEq, not_false_eq_true,
    List.nil_append, List.append_nil]

/-- The paths of a document are the lines of the edges. -/
theorem draw_paths : (draw d style g).toSvg.named "path" =
    ((prepareEdges d style g).flatMap fun p => p.edgeLines style.cornerRadius).map EdgeLine.toSvg := by
  rw [Drawing.named_toSvg (by decide) _ (by decide), named_markerDefinitions, List.nil_append]
  exact drawContent_paths

/-- The elements of a label: the rectangle, and over it the text. -/
def LabelShape.elements (l : LabelShape α) : List Svg.Node := [l.backToSvg, l.textToSvg]

/-- Between the background and the legend, a layer of a document has the elements of this layer of the content. -/
theorem draw_layerContent (layer : Layer) (notBackground : layer ≠ .background) (notLegend : layer ≠ .legend) :
    (draw d style g).toSvg.layerContent layer.name =
      ((drawContent d style g (prepareEdges d style g)).inLayer layer).map DrawnItem.toSvg := by
  have background : (draw d style g).background.inLayer layer = [] :=
    LayeredOutput.inLayer_ofLayer_of_ne notBackground _
  have legend : ((draw d style g).legend.elim [] fun panel => panel.output.inLayer layer) = [] := by
    cases (draw d style g).legend with
    | none => rfl
    | some panel => exact LayeredOutput.inLayer_ofLayer_of_ne notLegend _
  rw [Drawing.layerContent_toSvg, background, legend, List.nil_append, List.append_nil]
  rfl

/-- The layer of labels has the elements of all labels in the order of the edges. -/
theorem draw_labels : (draw d style g).toSvg.layerContent "label" =
    (placeLabels ⟨titleStrips g, style.labelPadding⟩ (prepareEdges d style g)).flatMap
      fun label => label.elim [] LabelShape.elements := by
  refine (draw_layerContent .label (by decide) (by decide)).trans ?_
  rw [drawContent_inLayer_label, List.map_flatMap]
  refine List.flatMap_congr fun label _ => ?_
  cases label with
  | none => rfl
  | some l => rfl

end BoxDiagram
