/-
Module: BoxDiagram.Proofs.LabelSearch
Purpose: Labels keep clear of the titles of frames and of one another wherever a place for this is tried.  Each label
  takes the first of its candidates that is clear of all titles and of all labels before it.
Main exports: Bounds.intersects_comm, TitleStrip, mem_titleStrips_iff, SearchedPlace, SearchedLabel,
  placeLabels_getElem?, drawContent_labels_searched
-/
import BoxDiagram.Proofs.DrawnContent
import BoxDiagram.Proofs.Walk

namespace BoxDiagram

variable {α : Type}

/-! ### Rectangles of labels -/

/-- The rectangles of labels that have been placed. -/
def labelRects (labels : List (Option (LabelShape α))) : List (Bounds α) :=
  labels.filterMap fun label => label.map fun l => l.placement.rect

theorem mem_labelRects_take_iff {labels : List (Option (LabelShape α))} {k : Nat} {rect : Bounds α} :
    rect ∈ labelRects (labels.take k) ↔ ∃ i l, i < k ∧ labels[i]? = some (some l) ∧ l.placement.rect = rect := by
  rw [labelRects, List.mem_filterMap]
  constructor
  · rintro ⟨label, mem, isRect⟩
    obtain ⟨l, rfl, same⟩ := Option.map_eq_some_iff.mp isRect
    obtain ⟨i, position⟩ := List.mem_iff_getElem?.mp mem
    rw [List.getElem?_take, Option.ite_none_right_eq_some] at position
    exact ⟨i, l, position.1, position.2, same⟩
  · rintro ⟨i, l, before, position, same⟩
    rw [← List.getElem?_take_of_lt before] at position
    refine ⟨some l, List.mem_of_getElem? position, ?_⟩
    rw [Option.map_some, same]

/-! ### Overlap -/

variable [Scalar α]

namespace Bounds

/-- Whether two rectangles overlap does not depend on which one is asked. -/
theorem intersects_comm (a b : Bounds α) (padding : α) : a.intersects b padding = b.intersects a padding := by
  have horizontal := Bool.or_comm (decide (a.maxX + padding < b.minX)) (decide (b.maxX + padding < a.minX))
  have vertical := Bool.or_comm (decide (a.maxY + padding < b.minY)) (decide (b.maxY + padding < a.minY))
  rw [intersects, intersects, horizontal, Bool.or_assoc, vertical, ← Bool.or_assoc]

/-- A rectangle is clear of others if it overlaps none of them, padding included. -/
def ClearOf (rect : Bounds α) (others : List (Bounds α)) (padding : α) : Prop :=
  ∀ b ∈ others, rect.intersects b padding = false

end Bounds

theorem PlacedRects.isFree_iff {placed : PlacedRects α} {rect : Bounds α} :
    placed.isFree rect = true ↔ rect.ClearOf placed.rects placed.padding := by
  rw [isFree, Bool.not_eq_true', List.any_eq_false, Bounds.ClearOf]
  simp only [Bool.not_eq_true]

/-! ### Titles -/

/-- The strip with the title of a frame: at the place of a node with others inside it and of positive extent, as wide as
the node, and 50 high or as high as the node if this is less. -/
inductive TitleStrip (g : PositionedGraph α) : Bounds α → Prop where
  | ofFrame {path : List (Tree (PositionedNode α))} {t : Tree (PositionedNode α)}
      (branch : Tree.Branch g.children path t) (isCompound : t.isCompound = true)
      (wide : (0.0 : α) < t.value.width) (high : (0.0 : α) < t.value.height) :
      TitleStrip g (.ofTopLeft (cornerAlong Point.origin path) ⟨t.value.width, Scalar.smaller t.value.height 50.0⟩)

/-- The strips that labels keep clear of are those of all frames, however deep they lie. -/
theorem mem_titleStrips_iff {g : PositionedGraph α} {strip : Bounds α} :
    strip ∈ titleStrips g ↔ TitleStrip g strip := by
  rw [titleStrips, List.mem_filterMap]
  constructor
  · rintro ⟨v, visited, isStrip⟩
    obtain ⟨path, branch, place, -⟩ := exists_branch_of_mem_walkForest visited
    rw [Option.ite_none_right_eq_some, Bool.and_eq_true, Bool.and_eq_true, decide_eq_true_eq, decide_eq_true_eq]
      at isStrip
    obtain ⟨⟨⟨isCompound, wide⟩, high⟩, same⟩ := isStrip
    rw [← Option.some.inj same, place]
    exact .ofFrame branch isCompound wide high
  · rintro ⟨branch, isCompound, wide, high⟩
    obtain ⟨v, visited, rfl, place⟩ := branch.exists_visit Point.origin 0
    refine ⟨v, visited, ?_⟩
    rw [if_pos, ← place]
    · rfl
    · rw [isCompound, decide_eq_true wide, decide_eq_true high]
      rfl

/-! ### One label -/

variable [Metric α]

/-- Seven places along the line are tried, and then thirty around each of three places of it. -/
theorem labelCandidates_length (points : List (Point α)) (size : Size α) :
    (labelCandidates points size).length = 7 + 3 * 30 := by
  rw [labelCandidates, labelAnchors, List.length_map, List.length_append]
  rfl

/-- Is one of the candidates for a label clear of the rectangles that are taken? -/
def HasRoom (points : List (Point α)) (size : Size α) (taken : List (Bounds α)) (padding : α) : Prop :=
  ∃ c ∈ labelCandidates points size, c.rect.ClearOf taken padding

/-- The place that is chosen for a label of this size along the line through the points.  With room it is the first
candidate that is clear of what is taken, and then it overlaps nothing that is taken, whichever rectangle is asked.
Without room it is in the middle of the line. -/
structure SearchedPlace (points : List (Point α)) (size : Size α) (taken : List (Bounds α)) (padding : α)
    (chosen : LabelPlacement α) : Prop where
  tried : (labelCandidates points size).length = 7 + 3 * 30
  first : HasRoom points size taken padding → ∃ before after,
    labelCandidates points size = before ++ chosen :: after ∧ chosen.rect.ClearOf taken padding ∧
      ∀ c ∈ before, ¬ c.rect.ClearOf taken padding
  apart : HasRoom points size taken padding → ∀ b ∈ taken,
    chosen.rect.intersects b padding = false ∧ b.intersects chosen.rect padding = false
  crowded : ¬ HasRoom points size taken padding → chosen = .at size (pointAtFraction points 0.5)

theorem findLabelPosition_searched (points : List (Point α)) (size : Size α) (placed : PlacedRects α) :
    SearchedPlace points size placed.rects placed.padding (findLabelPosition points size placed) := by
  have tried := labelCandidates_length points size
  rw [findLabelPosition]
  cases found : (labelCandidates points size).find? fun c => placed.isFree c.rect with
  | none =>
      have noRoom : ¬ HasRoom points size placed.rects placed.padding := by
        rintro ⟨c, mem, isClear⟩
        exact List.find?_eq_none.mp found c mem (PlacedRects.isFree_iff.mpr isClear)
      exact ⟨tried, fun room => absurd room noRoom, fun room => absurd room noRoom, fun _ => rfl⟩
  | some chosen =>
      obtain ⟨isFree, before, after, candidates, notFree⟩ := List.find?_eq_some_iff_append.mp found
      have isClear := PlacedRects.isFree_iff.mp isFree
      have room : HasRoom points size placed.rects placed.padding :=
        ⟨chosen, List.mem_of_find?_eq_some found, isClear⟩
      refine ⟨tried, fun _ => ⟨before, after, candidates, isClear, ?_⟩, fun _ b mem => ⟨isClear b mem, ?_⟩,
        fun noRoom => absurd room noRoom⟩
      · intro c mem earlierClear
        have free := PlacedRects.isFree_iff.mpr earlierClear
        simpa [free] using notFree c mem
      · rw [Bounds.intersects_comm]
        exact isClear b mem

/-- The label of an edge when the rectangles in `taken` are taken: none if the edge has no text or no line, and else its
text in its colour, with the place that is chosen along its first line. -/
inductive SearchedLabel (p : EdgePaint α) (taken : List (Bounds α)) (padding : α) : Option (LabelShape α) → Prop where
  | absent (noLabel : p.labelText? = none ∨ p.lines = []) : SearchedLabel p taken padding none
  | present {text : String} {points : List (Point α)} {others : List (List (Point α))} {place : LabelPlacement α}
      (labelled : p.labelText? = some text) (lines : p.lines = points :: others)
      (searched : SearchedPlace points (labelSize text) taken padding place) :
      SearchedLabel p taken padding (some ⟨place, labelSize text, text, p.colour⟩)

theorem EdgePaint.placeLabel?_searched (p : EdgePaint α) (placed : PlacedRects α) :
    SearchedLabel p placed.rects placed.padding (p.placeLabel? placed) := by
  rw [placeLabel?]
  cases labelled : p.labelText? with
  | none => exact .absent (.inl labelled)
  | some text =>
      cases lines : p.lines with
      | nil => exact .absent (.inr lines)
      | cons points others => exact .present labelled lines (findLabelPosition_searched points (labelSize text) placed)

/-! ### All labels -/

/-- Every edge gets the label that it gets when the rectangles of all labels of the edges before it are taken. -/
theorem placeLabels_getElem? (placed : PlacedRects α) (edges : List (EdgePaint α)) (k : Nat) :
    (placeLabels placed edges)[k]? = edges[k]?.map fun p =>
      p.placeLabel? ⟨placed.rects ++ labelRects ((placeLabels placed edges).take k), placed.padding⟩ := by
  induction edges generalizing placed k with
  | nil => rfl
  | cons p rest ih =>
      rw [placeLabels]
      cases k with
      | zero =>
          rw [List.getElem?_cons_zero, List.getElem?_cons_zero, List.take_zero, Option.map_some]
          simp only [labelRects, List.filterMap_nil, List.append_nil]
      | succ k =>
          rw [List.getElem?_cons_succ, List.getElem?_cons_succ, List.take_succ_cons, ih]
          cases p.placeLabel? placed with
          | none => rfl
          | some l =>
              simp only [labelRects, Option.elim_some, PlacedRects.push, List.filterMap_cons, Option.map_some,
                List.append_assoc, List.singleton_append]

theorem placeLabels_length (placed : PlacedRects α) (edges : List (EdgePaint α)) :
    (placeLabels placed edges).length = edges.length := by
  induction edges generalizing placed with
  | nil => rfl
  | cons p rest ih => rw [placeLabels, List.length_cons, List.length_cons, ih]

/-- In a drawing with any layout and any edges, the layer of labels holds one label for every edge with a text, and the
place of each label is searched for among all titles of frames and all labels before it. -/
theorem drawContent_labels_searched (d : Diagram α) (style : DrawingStyle α) (g : PositionedGraph α)
    (edges : List (EdgePaint α)) :
    ∃ labels : List (Option (LabelShape α)),
      ((drawContent d style g edges).inLayer .label = labels.flatMap fun label => label.elim [] LabelShape.items) ∧
      labels.length = edges.length ∧
      (∀ k p, edges[k]? = some p → ∃ label, labels[k]? = some label ∧
        SearchedLabel p (titleStrips g ++ labelRects (labels.take k)) style.labelPadding label) ∧
      (∀ strip, strip ∈ titleStrips g ↔ TitleStrip g strip) ∧
      ∀ k rect, rect ∈ labelRects (labels.take k) ↔
        ∃ i l, i < k ∧ labels[i]? = some (some l) ∧ l.placement.rect = rect := by
  refine ⟨placeLabels ⟨titleStrips g, style.labelPadding⟩ edges, drawContent_inLayer_label, placeLabels_length _ edges,
    fun k p position => ?_, fun _ => mem_titleStrips_iff, fun _ _ => mem_labelRects_take_iff⟩
  have label := placeLabels_getElem? ⟨titleStrips g, style.labelPadding⟩ edges k
  rw [position, Option.map_some] at label
  have searched := p.placeLabel?_searched
    ⟨titleStrips g ++ labelRects ((placeLabels ⟨titleStrips g, style.labelPadding⟩ edges).take k), style.labelPadding⟩
  exact ⟨_, label, searched⟩

end BoxDiagram
