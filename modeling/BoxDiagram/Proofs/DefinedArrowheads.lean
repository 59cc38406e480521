/-
Module: BoxDiagram.Proofs.DefinedArrowheads
Purpose: The definitions of arrowheads in the document of a drawing.  There is one for the default colour and one for each
  other colour that a path has, in the order in which the paths use them, and every path refers to the one of its colour.
Main exports: Svg.Node.strokes, routedColour, DefinesArrowheads, arrowheads_defined
-/
import BoxDiagram.Proofs.Arrowheads
import BoxDiagram.Proofs.DrawnEdges

namespace BoxDiagram

/-! ### Colours that are used several times in a row -/

/-- Colours that are used first count only for what they are. -/
theorem distinctColours_append_congr {uses others : List String} (same : distinctColours uses = distinctColours others)
    (later : List String) : distinctColours (uses ++ later) = distinctColours (others ++ later) := by
  simp only [distinctColours, List.foldl_append] at same ⊢
  rw [same]

/-- Using a colour several times in a row is using it once. -/
theorem distinctColours_append_replicate (uses : List String) (c : String) {n : Nat} (some : 0 < n) :
    distinctColours (uses ++ List.replicate n c) = distinctColours (uses ++ [c]) := by
  induction n, some using Nat.le_induction with
  | base => rfl
  | succ n _ ih =>
      have known : c ∈ distinctColours (uses ++ List.replicate n c) := by
        rw [ih, mem_distinctColours]
        exact List.mem_append_right _ (List.mem_singleton_self c)
      rw [List.replicate_succ', ← List.append_assoc, distinctColours_append_singleton, if_pos known, ih]

/-- The same for the colours of several things, of which each is used some times in a row. -/
theorem distinctColours_runs {ε : Type} (uses : List String) (colour : ε → String) (count : ε → Nat) {things : List ε}
    (used : ∀ e ∈ things, 0 < count e) :
    distinctColours (uses ++ things.flatMap fun e => List.replicate (count e) (colour e)) =
      distinctColours (uses ++ things.map colour) := by
  induction things using List.reverseRecOn with
  | nil => rfl
  | append_singleton earlier e ih =>
      obtain ⟨usedEarlier, usedHere⟩ := List.forall_mem_append.mp used
      rw [List.flatMap_append, List.flatMap_singleton, List.map_append, List.map_singleton, ← List.append_assoc,
        ← List.append_assoc, distinctColours_append_replicate _ _ (usedHere e (List.mem_singleton_self e))]
      exact distinctColours_append_congr (ih usedEarlier) [colour e]

/-! ### Strokes and their edges -/

/-- The strokes of the paths of a document, in the order of the paths. -/
def Svg.Node.strokes (document : Svg.Node) : List String := (document.named "path").filterMap (attribute? "stroke")

section Strokes

variable {α : Type} [Scalar α]

/-- The colour that a routed edge has in a drawing, no matter whether it has sections: that of the edge of the diagram it
comes from, or the default one if there is no such edge. -/
def routedColour (d : Diagram α) (style : DrawingStyle α) (e : PositionedEdge α) : String :=
  (modelEdge? d e).elim style.edgeColour (strokeOf style)

variable {d : Diagram α} {style : DrawingStyle α} {g : PositionedGraph α}

/-- The edges that are drawn are the routed edges with sections, each in its colour. -/
theorem prepareEdges_colours : (prepareEdges d style g).map EdgePaint.colour =
    (g.edges.filter fun e => !e.sections.isEmpty).map (routedColour d style) := by
  rw [prepareEdges, List.map_map]
  refine List.map_congr_left fun e _ => ?_
  rw [Function.comp_apply, routedColour]
  cases modelEdge? d e with
  | none => rfl
  | some model => exact paint_strokeOf style model

/-- An edge that is drawn has a line. -/
theorem lines_of_mem_prepareEdges {p : EdgePaint α} (mem : p ∈ prepareEdges d style g) : 0 < p.lines.length := by
  obtain ⟨e, isRouted, rfl⟩ := List.mem_map.mp mem
  simpa [List.length_pos_iff] using (List.mem_filter.mp isRouted).2

variable [Metric α] [NumberText α]

/-- The paths of a drawing have the colours of the edges, each as often as the edge has lines. -/
theorem draw_strokes : (draw d style g).toSvg.strokes =
    (prepareEdges d style g).flatMap fun p => List.replicate p.lines.length p.colour := by
  rw [Svg.Node.strokes, draw_paths, List.filterMap_map]
  have strokes : ∀ l : EdgeLine α, (Svg.Node.attribute? "stroke" ∘ EdgeLine.toSvg) l = some l.colour := stroke_line
  rw [funext strokes, List.filterMap_eq_map', List.map_flatMap]
  refine List.flatMap_congr fun p _ => ?_
  rw [EdgePaint.edgeLines, List.map_map]
  exact List.map_const'

/-- The default colour and the strokes are the same colours in the same order as the marker colours. -/
theorem distinctColours_strokes : distinctColours (style.edgeColour :: (draw d style g).toSvg.strokes) =
    distinctColours (draw d style g).markerColours := by
  rw [draw_strokes]
  exact distinctColours_runs [style.edgeColour] _ _ fun p mem => lines_of_mem_prepareEdges mem

/-! ### The block of definitions -/

theorem named_arrowMarker_defs (colour : String) : (arrowMarker colour).named "defs" = [] := rfl

/-- A document has one block of definitions, that of the arrowheads. -/
theorem draw_defs : (draw d style g).toSvg.named "defs" = [markerDefinitions (draw d style g).markerColours] := by
  rw [Drawing.named_toSvg (by decide) _ (by decide), namedIn_content_eq_nil (by decide) (by decide), List.append_nil,
    markerDefinitions, Svg.Node.named, if_pos rfl, Svg.Node.namedIn_eq_nil]
  · rfl
  · simp [named_arrowMarker_defs]

end Strokes

/-- The document has these markers: they are in the only block of definitions, with nothing else in it, and there are no
others.  They have the default colour and those of the paths, each once and in the order of their first use, and for every
path there is the one that it refers to and that has its stroke. -/
structure DefinesArrowheads (document : Svg.Node) (default : String) (markers : List Svg.Node) : Prop where
  block : document.named "defs" = [.element "defs" [] markers]
  all : document.named "marker" = markers
  colours : ∃ colours, markers.map Svg.Node.arrowColour? = colours.map some ∧ colours.head? = some default ∧
    InOrderOfUse (default :: document.strokes) colours
  own : ∀ path ∈ document.named "path", ∃ marker ∈ markers, ∃ id stroke, marker.attribute? "id" = some id ∧
    path.attribute? "marker-end" = some (Svg.Node.reference id) ∧ path.attribute? "stroke" = some stroke ∧
    marker.arrowColour? = some stroke

/-- The first colour that is used is the first one that is kept. -/
theorem InOrderOfUse.head?_eq {first : String} {uses colours : List String} (inOrder : InOrderOfUse (first :: uses) colours) :
    colours.head? = some first := by
  cases colours with
  | nil => exact absurd ((inOrder.mem first).mpr List.mem_cons_self) List.not_mem_nil
  | cons c rest =>
      rcases List.mem_cons.mp ((inOrder.mem first).mpr List.mem_cons_self) with rfl | later
      · rfl
      · have less := List.rel_of_pairwise_cons inOrder.order later
        rw [List.idxOf_cons_self] at less
        exact absurd less (Nat.not_lt_zero _)

/-- The arrowheads of a drawing are defined, once for each colour.  A colour has a definition exactly if it is the default
one or that of an edge with sections, so a colour that only edges without sections have gets none. -/
theorem arrowheads_defined {α : Type} [Scalar α] [Metric α] [NumberText α] (d : Diagram α) (style : DrawingStyle α)
    (g : PositionedGraph α) :
    ∃ markers, DefinesArrowheads (draw d style g).toSvg style.edgeColour markers ∧
      ∀ c, (∃ marker ∈ markers, marker.arrowColour? = some c) ↔
        c = style.edgeColour ∨ ∃ e ∈ g.edges, e.sections ≠ [] ∧ routedColour d style e = c := by
  have inOrder := distinctColours_inOrderOfUse (style.edgeColour :: (draw d style g).toSvg.strokes)
  rw [distinctColours_strokes] at inOrder
  refine ⟨(distinctColours (draw d style g).markerColours).map arrowMarker, ⟨draw_defs, draw_markers, ?_, ?_⟩, fun c => ?_⟩
  · refine ⟨_, ?_, inOrder.head?_eq, inOrder⟩
    rw [List.map_map]
    rfl
  · intro path isPath
    obtain ⟨l, rfl, isColour⟩ := exists_line_of_path isPath
    exact ⟨arrowMarker l.colour, List.mem_map_of_mem (mem_distinctColours.mpr isColour), markerId l.colour, l.colour, rfl,
      markerEnd_line l, stroke_line l, rfl⟩
  · have isColour : c ∈ (draw d style g).markerColours ↔
        c = style.edgeColour ∨ ∃ e ∈ g.edges, e.sections ≠ [] ∧ routedColour d style e = c := by
      have colours : (draw d style g).markerColours = style.edgeColour :: (prepareEdges d style g).map EdgePaint.colour := rfl
      rw [colours, prepareEdges_colours]
      simp [and_assoc]
    rw [← isColour, ← mem_distinctColours]
    constructor
    · rintro ⟨marker, mem, hasColour⟩
      obtain ⟨b, kept, rfl⟩ := List.mem_map.mp mem
      cases hasColour
      exact kept
    · exact fun kept => ⟨arrowMarker c, List.mem_map_of_mem kept, rfl⟩

end BoxDiagram
