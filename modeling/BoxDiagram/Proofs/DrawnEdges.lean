/-
Module: BoxDiagram.Proofs.DrawnEdges
Purpose: Every edge of a diagram without faults is drawn once, in its own colour and line style and with its own label.
  The drawing finds the edge of the diagram again by the number in the id of the routed edge.
Main exports: edgeIndex?_edgeId, strokeOf, PaintedFrom, DrawnPath, DrawnLabel, Diagram.edges_drawn
-/
import BoxDiagram.Proofs.DrawnDocument
import BoxDiagram.Proofs.RoutedEdges
import Mathlib.Data.Rat.Defs

namespace BoxDiagram

/-! ### Numbers in ids -/

theorem digitsValue_toDigits (n : Nat) : digitsValue (Nat.toDigits 10 n) = n := by
  have value := Nat.ofDigitChars_ten_toDigits (n := n)
  rw [Nat.ofDigitChars_eq_foldl] at value
  rw [digitsValue]
  simpa only [Nat.mul_comm] using value

theorem readIndex?_toDigits (n : Nat) : readIndex? (Nat.toDigits 10 n) = some n := by
  have digits : ∀ c ∈ Nat.toDigits 10 n, c.isDigit = true := fun c mem =>
    Nat.isDigit_of_mem_toDigits (by decide) (by decide) mem
  have value := digitsValue_toDigits n
  cases written : Nat.toDigits 10 n with
  | nil => exact absurd written Nat.toDigits_ne_nil
  | cons c rest =>
      rw [written] at digits value
      have noSign : c ≠ '+' := by
        rintro rfl
        exact absurd (digits '+' List.mem_cons_self) (by decide)
      have allDigits : (c :: rest).all Char.isDigit = true := List.all_eq_true.mpr digits
      have unsigned : ∀ digits, c :: rest ≠ '+' :: digits := fun _ same => noSign (List.cons.inj same).1
      rw [readIndex?]
      · simp only [allDigits, value, List.isEmpty_cons, Bool.not_true, Bool.or_self, Bool.false_eq_true, if_false]
      · exact unsigned

/-- The number in the id of an edge is read back. -/
theorem edgeIndex?_edgeId (i : Nat) : edgeIndex? ("e" ++ toString i) = some i := by
  rw [edgeIndex?, String.toList_append, Nat.toString_eq_repr, Nat.toList_repr]
  exact readIndex?_toDigits i

/-! ### Edges ready to be drawn -/

section Paints

variable {α : Type} [Scalar α]

/-- The colour of an edge: what its own colour name stands for, or the name itself if it stands for nothing, or the
default. -/
def strokeOf (style : DrawingStyle α) (e : Edge) : String :=
  match e.colourName with
  | some name => ((style.colours.resolve name).map Colour.text).getD name
  | none => style.edgeColour

omit [Scalar α] in
/-- Edges are painted in their colours. -/
theorem paint_strokeOf (style : DrawingStyle α) (e : Edge) :
    (match e.colourName with
      | some name => style.colours.paint name
      | none => style.edgeColour) = strokeOf style e := by
  rw [strokeOf]
  cases e.colourName with
  | none => rfl
  | some name => exact style.colours.paint_eq name

/-- The edge to draw comes from the edge `e` of the diagram. -/
structure PaintedFrom (style : DrawingStyle α) (e : Edge) (p : EdgePaint α) : Prop where
  model : p.model = some e
  colour : p.colour = strokeOf style e
  lines : p.lines.length = 1
  labels : p.edge.labels = e.label.toList

theorem forall_mem_of_forall₂ {β γ : Type} {R : β → γ → Prop} {Q : γ → Prop} {xs : List β} {ys : List γ}
    (all : List.Forall₂ R xs ys) (holds : ∀ x y, R x y → Q y) : ∀ y ∈ ys, Q y := by
  induction all with
  | nil => exact fun _ mem => absurd mem List.not_mem_nil
  | cons here _ ih => exact List.forall_mem_cons.mpr ⟨holds _ _ here, ih⟩

/-- Routed edges with the ids of their positions are drawn as the edges at these positions. -/
theorem prepareEdges_painted (style : DrawingStyle α) {d : Diagram α} {placed : PositionedGraph α}
    (routed : List.Forall₂ (fun (e, i) r => RoutedFrom e i r) d.edges.zipIdx placed.edges) :
    List.Forall₂ (PaintedFrom style) d.edges (prepareEdges d style placed) := by
  have kept : (placed.edges.filter fun r => !r.sections.isEmpty) = placed.edges := by
    refine List.filter_eq_self.mpr fun r mem => ?_
    have one := forall_mem_of_forall₂ (Q := fun r => r.sections.length = 1) routed (fun _ _ from' => from'.sections)
    have some : r.sections ≠ [] := List.ne_nil_of_length_eq_add_one (one r mem)
    rw [List.isEmpty_eq_false_iff.mpr some, Bool.not_false]
  have numbered : ∀ entry ∈ d.edges.zipIdx, d.edges[entry.2]? = some entry.1 :=
    fun _ mem => List.mem_zipIdx_iff_getElem?.mp mem
  have both := (List.forall₂_and_left _ _).mpr ⟨numbered, routed⟩
  have painted : List.Forall₂ (fun entry p => PaintedFrom style entry.1 p) d.edges.zipIdx
      (prepareEdges d style placed) := by
    rw [prepareEdges, kept, List.forall₂_map_right_iff]
    refine both.imp ?_
    rintro ⟨e, i⟩ r ⟨position, id, sections, labels⟩
    have model : modelEdge? d r = some e := by
      rw [modelEdge?, id, edgeIndex?_edgeId, Option.bind_some, position]
    refine ⟨model, ?_, (List.length_map _).trans sections, labels⟩
    dsimp only
    rw [model, Option.bind_some]
    exact paint_strokeOf style e
  rw [← List.zipIdx_map_fst 0 d.edges, List.forall₂_map_left_iff]
  exact painted

omit [Scalar α] in
/-- An edge has the label of the edge of the diagram, unless this is empty. -/
theorem PaintedFrom.labelText?_eq {style : DrawingStyle α} {e : Edge} {p : EdgePaint α}
    (painted : PaintedFrom style e p) : p.labelText? = e.label.filter fun text => !text.isEmpty := by
  rw [EdgePaint.labelText?, painted.labels, painted.model, Option.bind_some]
  cases e.label with
  | none => rfl
  | some text =>
      dsimp only [Option.toList_some, List.head?_cons, Option.some_or]
      cases empty : text.isEmpty <;> simp [Option.filter, empty]

variable [Metric α]

/-- The label of an edge as it is drawn: there is one if the edge has a text that is not empty, with this text and the
colour of the edge. -/
def HasLabel (style : DrawingStyle α) (e : Edge) (label : Option (LabelShape α)) : Prop :=
  label.map (fun l => (l.text, l.colour)) =
    (e.label.filter fun text => !text.isEmpty).map fun text => (text, strokeOf style e)

theorem PaintedFrom.hasLabel {style : DrawingStyle α} {e : Edge} {p : EdgePaint α} (painted : PaintedFrom style e p)
    (placed : PlacedRects α) : HasLabel style e (p.placeLabel? placed) := by
  obtain ⟨points, onlyLine⟩ := List.length_eq_one_iff.mp painted.lines
  rw [HasLabel, EdgePaint.placeLabel?, painted.labelText?_eq, onlyLine]
  cases e.label.filter fun text => !text.isEmpty with
  | none => rfl
  | some text =>
      rw [Option.map_some, Option.map_some, painted.colour]

theorem forall₂_hasLabel {style : DrawingStyle α} {es : List Edge} {ps : List (EdgePaint α)}
    (painted : List.Forall₂ (PaintedFrom style) es ps) (placed : PlacedRects α) :
    List.Forall₂ (HasLabel style) es (placeLabels placed ps) := by
  induction painted generalizing placed with
  | nil => exact .nil
  | cons here _ ih => exact .cons (here.hasLabel placed) (ih _)

/-- The line of an edge has its colour, and it is dashed if the edge is. -/
def HasLine (style : DrawingStyle α) (e : Edge) (line : EdgeLine α) : Prop :=
  line.colour = strokeOf style e ∧ line.dashed = e.style.dashed

/-- Every edge has one line. -/
theorem forall₂_hasLine {style : DrawingStyle α} {es : List Edge} {ps : List (EdgePaint α)}
    (painted : List.Forall₂ (PaintedFrom style) es ps) (radius : α) :
    List.Forall₂ (HasLine style) es (ps.flatMap fun p => p.edgeLines radius) := by
  induction painted with
  | nil => exact .nil
  | cons here _ ih =>
      obtain ⟨points, onlyLine⟩ := List.length_eq_one_iff.mp here.lines
      rw [List.flatMap_cons, EdgePaint.edgeLines, onlyLine, List.map_singleton, List.singleton_append]
      refine .cons ⟨here.colour, ?_⟩ ih
      rw [here.model, Option.elim_some]

end Paints

/-! ### Main result -/

section Main

variable {α κ : Type} [NumberText α]

/-- The drawn path of an edge has its colour, and it is dashed if the edge is. -/
structure DrawnPath (style : DrawingStyle α) (e : Edge) (path : Svg.Node) : Prop where
  stroke : path.attribute? "stroke" = some (strokeOf style e)
  dashes : path.attribute? "stroke-dasharray" = if e.style.dashed then some "6,3" else none

/-- The drawn label of an edge: nothing, if the edge has no label or an empty one, and else a rectangle and over it a
text that shows the lines of the label in the colour of the edge. -/
inductive DrawnLabel (style : DrawingStyle α) (e : Edge) : List Svg.Node → Prop where
  | absent (noText : ∀ text, e.label = some text → text = "") : DrawnLabel style e []
  | present {text : String} {back caption : Svg.Node} (labelled : e.label = some text) (notEmpty : text ≠ "")
      (isRect : back.tag? = some "rect") (isText : caption.tag? = some "text")
      (fill : caption.attribute? "fill" = some (strokeOf style e))
      (shown : caption.shown = String.join (Text.lines text)) : DrawnLabel style e [back, caption]

theorem HasLine.drawnPath {style : DrawingStyle α} {e : Edge} {line : EdgeLine α} (hasLine : HasLine style e line) :
    DrawnPath style e line.toSvg := by
  obtain ⟨colour, dashed⟩ := hasLine
  constructor
  · rw [← colour]
    rfl
  · rw [← dashed]
    cases isDashed : line.dashed with
    | false =>
        rw [EdgeLine.toSvg, isDashed]
        rfl
    | true =>
        rw [EdgeLine.toSvg, isDashed]
        rfl

variable [Scalar α]

theorem textToSvg_tag (l : LabelShape α) : l.textToSvg.tag? = some "text" := by
  rw [LabelShape.textToSvg]
  split <;> rfl

theorem textToSvg_fill (l : LabelShape α) : l.textToSvg.attribute? "fill" = some l.colour := by
  rw [LabelShape.textToSvg]
  split <;> rfl

theorem HasLabel.drawnLabel {style : DrawingStyle α} {e : Edge} {label : Option (LabelShape α)}
    (hasLabel : HasLabel style e label) : DrawnLabel style e (label.elim [] LabelShape.elements) := by
  rw [HasLabel] at hasLabel
  cases label with
  | none =>
      refine .absent fun text labelled => ?_
      rw [labelled, Option.filter_some] at hasLabel
      split at hasLabel
      · exact absurd hasLabel.symm (Option.some_ne_none _)
      · rename_i isEmpty
        simpa using isEmpty
  | some l =>
      cases text? : e.label with
      | none => simp [text?] at hasLabel
      | some text =>
          rw [text?, Option.filter_some] at hasLabel
          split at hasLabel
          · rename_i notEmpty
            obtain ⟨sameText, sameColour⟩ := Prod.mk.inj (Option.some.inj hasLabel)
            refine .present text? (by simpa using notEmpty) rfl (textToSvg_tag l) ?_ ?_
            · rw [textToSvg_fill, sameColour]
            · rw [shown_textToSvg, sameText]
          · exact absurd hasLabel (Option.some_ne_none _)

variable [Metric α] [Coordinate κ]

/-- No edge of a diagram without faults is lost, drawn twice or drawn in the style of another edge.  The layout has one
routed edge for every edge, and the document has one path and the one label of the edge, all in the order of the
edges. -/
theorem Diagram.edges_drawn {d : Diagram α} {config : LayoutConfig α} {layering : Layering κ}
    {placed : PositionedGraph α} (valid : d.validate = [])
    (laidOut : (LayoutEngine.layered layering).layout (layoutRequest d config) = .ok placed)
    (style : DrawingStyle α) :
    List.Forall₂ (fun (e, i) r => RoutedFrom e i r) d.edges.zipIdx placed.edges ∧
      List.Forall₂ (DrawnPath style) d.edges ((draw d style placed).toSvg.named "path") ∧
      ∃ labels, List.Forall₂ (DrawnLabel style) d.edges labels ∧
        (draw d style placed).toSvg.layerContent "label" = labels.flatten := by
  have routed := Diagram.edges_routed valid laidOut
  have painted := prepareEdges_painted style routed
  refine ⟨routed, ?_, ?_⟩
  · rw [draw_paths, List.forall₂_map_right_iff]
    exact (forall₂_hasLine painted style.cornerRadius).imp fun _ _ hasLine => hasLine.drawnPath
  · refine ⟨_, ?_, draw_labels.trans (List.flatMap_def ..)⟩
    rw [List.forall₂_map_right_iff]
    exact (forall₂_hasLabel painted _).imp fun _ _ hasLabel => hasLabel.drawnLabel

end Main

/-- A layering that always puts the first child into one layer and the second one into the next. -/
def twoLayers : Layering ℚ := fun _ => .ok [[⟨0, 0, 0⟩, ⟨1, 0, 1⟩]]

/-- Two boxes and two edges between them: a dashed blue one with a label of two lines, and one without any style. -/
def twiceJoined : Diagram Float32 :=
  { name := some "D"
    title := some "Boxes"
    flow := .leftToRight
    dpi := Diagram.defaultDpi
    style := .plain
    boxes := [
      .node { (default : Box) with name := "A", ports := [⟨"out", .output, none, none⟩] } [],
      .node { (default : Box) with name := "B" } []]
    actors := []
    edges := [
      ⟨⟨"A", some "out"⟩, ⟨"B", none⟩, some "reads\nwrites", none, ⟨some "blue", true⟩⟩,
      ⟨⟨"B", none⟩, ⟨"A", none⟩, some "", none, .plain⟩]
    legend := ⟨[("blue", "data")], true⟩
    metadata := none }

/-- Both edges between the boxes are drawn. -/
theorem twiceJoined_drawn :
    twiceJoined.validate = [] ∧
      ∃ placed, (LayoutEngine.layered twoLayers).layout (layoutRequest twiceJoined .standard) = .ok placed ∧
        List.Forall₂ (fun (e, i) r => RoutedFrom e i r) twiceJoined.edges.zipIdx placed.edges ∧
        List.Forall₂ (DrawnPath (.standard : DrawingStyle Float32)) twiceJoined.edges
          ((draw twiceJoined .standard placed).toSvg.named "path") ∧
        ∃ labels, List.Forall₂ (DrawnLabel (.standard : DrawingStyle Float32)) twiceJoined.edges labels ∧
          (draw twiceJoined .standard placed).toSvg.layerContent "label" = labels.flatten := by
  have valid : twiceJoined.validate = [] := by decide +kernel
  have succeeds : ((LayoutEngine.layered twoLayers).layout (layoutRequest twiceJoined .standard)).isOk = true := by
    decide +kernel
  obtain ⟨placed, laidOut⟩ := exists_eq_ok_of_isOk succeeds
  exact ⟨valid, placed, laidOut, Diagram.edges_drawn valid laidOut .standard⟩

end BoxDiagram
