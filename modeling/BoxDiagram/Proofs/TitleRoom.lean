/-
Module: BoxDiagram.Proofs.TitleRoom
Purpose: The room above what is inside a container.  The lines of the title and the zoom annotation are read off the
  document.  They stand above the children of the container exactly if there are few enough of them for the padding.
Main exports: Svg.Node.rows, BoxShape.baselines, BoxShape.rows_toSvg, frameBaselines, titleCapacity, TitleRoom,
  titles_above_iff
-/
import BoxDiagram.Proofs.DrawnTree
import BoxDiagram.Proofs.ExactRequest
import BoxDiagram.Proofs.LabelTexts
import BoxDiagram.Proofs.TightPacking

namespace BoxDiagram

/-! ### Rows of text -/

namespace Svg.Node

/-- The lines of a text element: how far down the element is put, and how far below this the line is. -/
def textRows (text : Svg.Node) : List (Option String × ℕ) :=
  text.writtenLines.map fun line => (text.attribute? "y", line.drop)

/-- The lines of all texts inside a node. -/
def rows (n : Svg.Node) : List (Option String × ℕ) := (n.named "text").flatMap textRows

end Svg.Node

/-- The baselines of the texts of a shape, from its upper side down. -/
def BoxShape.baselines {α : Type} [Scalar α] (s : BoxShape α) : List α :=
  s.title.elim [] TextBlock.baselines ++ s.captions.map Caption.baseline

/-- A line with this baseline: so far down is its text, or the line is as far below its text. -/
def OnBaseline (baseline : ℚ) (row : Option String × ℕ) : Prop :=
  ∃ y, row.1 = some (NumberText.print y) ∧ baseline = y + row.2

theorem TextBlock.rows_toSvg (b : TextBlock ℚ) (some : b.lines ≠ []) :
    List.Forall₂ OnBaseline b.baselines b.toSvg.textRows := by
  have place : b.toSvg.attribute? "y" = Option.some (NumberText.print b.baseline) := rfl
  have numbers : b.lines.zipIdx.map Prod.snd = List.range b.lines.length := by
    rw [List.zipIdx_map_snd, List.range_eq_range']
  have rows : b.toSvg.textRows =
      (List.range b.lines.length).map fun i => (Option.some (NumberText.print b.baseline), i * b.step) := by
    rw [Svg.Node.textRows, b.writtenLines_toSvg some, place, ← numbers, List.map_map, List.map_map]
    rfl
  rw [rows, TextBlock.baselines, List.forall₂_map_left_iff, List.forall₂_map_right_iff, List.forall₂_same]
  exact fun i _ => ⟨b.baseline, rfl, rfl⟩

theorem Caption.rows_toSvg (c : Caption ℚ) : List.Forall₂ OnBaseline [c.baseline] c.toSvg.textRows := by
  rw [Svg.Node.textRows, writtenLines_caption]
  refine .cons ⟨c.baseline, rfl, ?_⟩ .nil
  simp

/-- The texts of a shape are written on its baselines. -/
theorem BoxShape.rows_toSvg (s : BoxShape ℚ) (titled : ∀ title ∈ s.title, title.lines ≠ []) :
    List.Forall₂ OnBaseline s.baselines s.toSvg.rows := by
  have captions : List.Forall₂ OnBaseline (s.captions.map Caption.baseline)
      ((s.captions.map Caption.toSvg).flatMap Svg.Node.textRows) := by
    induction s.captions with
    | nil => exact .nil
    | cons c rest ih => exact List.rel_append c.rows_toSvg ih
  rw [Svg.Node.rows, s.named_text, List.flatMap_append]
  refine List.rel_append ?_ captions
  cases isTitle : s.title with
  | none => exact .nil
  | some title =>
      rw [Option.toList_some, List.map_singleton, List.flatMap_singleton]
      exact title.rows_toSvg (titled title isTitle)

/-! ### The texts of a frame -/

/-- The baselines in a frame: those of the lines of its label, if it has one, and that of the zoom annotation. -/
def frameBaselines (label : String) (zoom : Option String) : List ℚ :=
  (if label.isEmpty then [] else (List.range (Text.lines label).length).map fun i : ℕ => 22 + 16 * (i : ℚ)) ++
    zoom.toList.map fun _ => 24 + 16 * ((Text.lines label).length : ℚ)

theorem compoundTitle_lines {paint : BoxPaint ℚ} {label : String} :
    ∀ title ∈ compoundTitle paint label, title.lines ≠ [] := by
  intro title isTitle
  rw [compoundTitle] at isTitle
  split at isTitle
  · cases isTitle
  · cases isTitle
    exact Text.lines_ne_nil label

theorem compoundTitle_baselines (paint : BoxPaint ℚ) (label : String) :
    ((compoundTitle paint label).elim [] TextBlock.baselines) =
      if label.isEmpty then [] else (List.range (Text.lines label).length).map fun i : ℕ => 22 + 16 * (i : ℚ) := by
  rw [compoundTitle]
  split
  · rfl
  · refine List.map_congr_left fun i _ => ?_
    have down : (Scalar.ofNat (i * 16) : ℚ) = ((i * 16 : ℕ) : ℚ) := rfl
    dsimp only
    rw [down]
    push_cast
    ring

theorem compoundZoom_baselines (label : String) (zoom : Option String) :
    (compoundZoom label zoom).map Caption.baseline =
      zoom.toList.map fun _ => 24 + 16 * ((Text.lines label).length : ℚ) := by
  cases zoom with
  | none => rfl
  | some zoom =>
      have lines : (Scalar.ofNat (Text.lines label).length : ℚ) = ((Text.lines label).length : ℚ) := rfl
      have below : (22.0 : ℚ) + (Text.lines label).length * 16.0 + 2.0 = 24 + 16 * (Text.lines label).length := by
        norm_num
        ring
      rw [compoundZoom, List.map_singleton, lines, below]
      rfl

/-- The baselines of a frame are those of its label and its zoom annotation. -/
theorem compoundShape_baselines (n : PositionedNode ℚ) (model : Option (Tree Box)) (paint : BoxPaint ℚ)
    (origin : Point ℚ) :
    (compoundShape n model paint origin).baselines =
      frameBaselines (n.labels.headD "") (model.bind fun t => t.value.zoom) := by
  rw [BoxShape.baselines, compoundShape, frameBaselines]
  dsimp only
  rw [compoundTitle_baselines, compoundZoom_baselines]

/-- So many lines of a title have room above what is inside a container. -/
def titleCapacity (zoom : Option String) : ℕ := if zoom.isSome then 2 else 3

theorem lines_of_isEmpty {label : String} (isEmpty : label.isEmpty = true) : Text.lines label = [""] := by
  rw [String.isEmpty_iff.mp isEmpty]
  rfl

theorem labelLines_clear_iff (count : ℕ) : (∀ i < count, 22 + 16 * (i : ℚ) < 70) ↔ count ≤ 3 := by
  constructor
  · intro clear
    by_contra many
    have fourth := clear 3 (by omega)
    norm_num at fourth
  · intro few i inside
    have atMost : i ≤ 2 := by omega
    have cast : (i : ℚ) ≤ 2 := by exact_mod_cast atMost
    linarith

theorem zoomLine_clear_iff (count : ℕ) : 24 + 16 * (count : ℚ) < 70 ↔ count ≤ 2 := by
  constructor
  · intro clear
    have cast : (count : ℚ) < 3 := by linarith
    have few : count < 3 := by exact_mod_cast cast
    omega
  · intro few
    have cast : (count : ℚ) ≤ 2 := by exact_mod_cast few
    linarith

/-- Title and zoom annotation are within the padding exactly if the label has no more lines than there is room for. -/
theorem frameBaselines_clear_iff (label : String) (zoom : Option String) :
    (∀ b ∈ frameBaselines label zoom, b < (compoundPadding : Insets ℚ).top) ↔
      (Text.lines label).length ≤ titleCapacity zoom := by
  have padding : (compoundPadding : Insets ℚ).top = 70 := by norm_num [compoundPadding]
  -- An empty label writes no line, and counts as one.
  have title : (∀ b ∈ if label.isEmpty then [] else
      (List.range (Text.lines label).length).map fun i : ℕ => 22 + 16 * (i : ℚ), b < 70) ↔
        (Text.lines label).length ≤ 3 := by
    cases isEmpty : label.isEmpty with
    | true => simp [lines_of_isEmpty isEmpty]
    | false =>
        rw [if_neg Bool.false_ne_true, List.forall_mem_map, ← labelLines_clear_iff]
        simp only [List.mem_range]
  rw [padding, frameBaselines, List.forall_mem_append, title, titleCapacity]
  cases zoom with
  | none => simp
  | some zoom =>
      simp [zoomLine_clear_iff]
      omega

/-! ### Room for the title -/

section Layouts

variable {κ : Type} [Coordinate κ]

/-- The zoom annotation in the frame of a box: that of the box that is found under its id. -/
def drawnZoom {α : Type} (d : Diagram α) (t : Tree Box) : Option String :=
  ((BoxIndex.ofForest d.boxes).get? t.value.id.text).bind fun found => found.value.zoom

/-- The texts of a shape stand above the nodes inside it.  Both are placed relative to the corner of the shape. -/
def TextsAbove (s : BoxShape ℚ) (inside : List (Tree (PositionedNode ℚ))) : Prop :=
  ∀ b ∈ s.baselines, ∀ c ∈ inside, b < c.value.y

instance (s : BoxShape ℚ) (inside : List (Tree (PositionedNode ℚ))) : Decidable (TextsAbove s inside) :=
  inferInstanceAs (Decidable (∀ b ∈ s.baselines, ∀ c ∈ inside, b < c.value.y))

/-- The box `t` with others inside it, laid out as the node of a visit and drawn.  Its texts are the lines of its label
and the zoom annotation, and the nodes inside are below its padding.  So the texts stand above them if the label has few
enough lines, and where the layering leaves no layer empty, only then. -/
structure TitleRoom (layering : Layering κ) (d : Diagram ℚ) (style : DrawingStyle ℚ) (t : Tree Box) (v : Visit ℚ) :
    Prop where
  written : List.Forall₂ OnBaseline (nodeShape d style v).baselines (nodeShape d style v).toSvg.rows
  baselines : (nodeShape d style v).baselines = frameBaselines t.value.label (drawnZoom d t)
  zoom : d.validate = [] → drawnZoom d t = t.value.zoom
  room : ∀ c ∈ v.node.children, compoundPadding.top ≤ c.value.y
  above : (Text.lines t.value.label).length ≤ titleCapacity (drawnZoom d t) →
    TextsAbove (nodeShape d style v) v.node.children
  above_iff : layering.FillsLayers → (TextsAbove (nodeShape d style v) v.node.children ↔
    (Text.lines t.value.label).length ≤ titleCapacity (drawnZoom d t))

variable {layering : Layering κ} {d : Diagram ℚ} {config : LayoutConfig ℚ} {placed : PositionedGraph ℚ}

/-- The shape of a node with others inside it has the baselines of its frame. -/
theorem nodeShape_baselines (style : DrawingStyle ℚ) {t : Tree Box} {v : Visit ℚ} (asked : AskedBy d.flow t v)
    (isCompound : t.isCompound = true) :
    (nodeShape d style v).baselines = frameBaselines t.value.label (drawnZoom d t) ∧
      List.Forall₂ OnBaseline (nodeShape d style v).baselines (nodeShape d style v).toSvg.rows := by
  have id : v.node.value.id = t.value.id.text := congrArg NodeNames.id asked.names
  have labels : v.node.value.labels = [t.value.label] := congrArg NodeNames.labels asked.names
  let found := (BoxIndex.ofForest d.boxes).get? t.value.id.text
  have shape : nodeShape d style v = compoundShape v.node.value found
      (BoxPaint.of found d.style v.depth style.colours.paint) v.origin := by
    rw [nodeShape, id, boxShape.eq_def, if_pos (asked.compound.trans isCompound)]
  rw [shape]
  constructor
  · rw [compoundShape_baselines, labels, List.headD_cons, drawnZoom]
  · exact BoxShape.rows_toSvg _ compoundTitle_lines

/-- What the nodes of a layout have from the request of their boxes, told along the walk. -/
theorem walk_of_allNodes {R : Tree (LayoutNode ℚ) → Tree (PositionedNode ℚ) → Prop}
    (all : List.Forall₂ R (layoutRequest d config).allNodes (Tree.preorderForest placed.children)) :
    List.Forall₂ (fun t v => R (boxNode d.flow t) v.node) d.allBoxes placed.walk := by
  have visits : placed.walk.map Visit.node = Tree.preorderForest placed.children := walkForest_nodes _ _ _
  rw [LayoutGraph.allNodes_eq, layoutRequest_nodes, List.forall₂_map_left_iff, ← visits,
    List.forall₂_map_right_iff] at all
  exact all

/-- The nodes inside a container are below its padding. -/
theorem padding_le_of_nested {t : Tree Box} (isCompound : t.isCompound = true) {u : Tree (PositionedNode ℚ)}
    (nested : Nested (boxNode d.flow t) u) : ∀ c ∈ u.children, compoundPadding.top ≤ c.value.y := by
  intro c isChild
  have within : 0 + (boxNode d.flow t).value.insets.top ≤ c.value.y := (nested.inside c isChild).2.1
  rw [insets_boxNode d.flow isCompound, zero_add] at within
  exact within

/-- One of the nodes inside a container is directly below its padding. -/
theorem exists_child_of_topped {t : Tree Box} (isCompound : t.isCompound = true) {u : Tree (PositionedNode ℚ)}
    (topped : Topped (boxNode d.flow t) u) : ∃ c ∈ u.children, c.value.y = compoundPadding.top := by
  rw [Topped, insets_boxNode d.flow isCompound] at topped
  apply topped
  rw [← Tree.isCompound_iff, boxNode, Tree.isCompound_mapTree]
  exact isCompound

/-- Texts above the padding are above the nodes inside, and if one of these is directly below the padding, only such
texts are. -/
theorem textsAbove_iff {s : BoxShape ℚ} {inside : List (Tree (PositionedNode ℚ))} {top : ℚ}
    (room : ∀ c ∈ inside, top ≤ c.value.y) :
    ((∀ b ∈ s.baselines, b < top) → TextsAbove s inside) ∧
      ((∃ c ∈ inside, c.value.y = top) → (TextsAbove s inside ↔ ∀ b ∈ s.baselines, b < top)) := by
  have above : (∀ b ∈ s.baselines, b < top) → TextsAbove s inside :=
    fun clear b isBaseline c isInside => (clear b isBaseline).trans_le (room c isInside)
  refine ⟨above, ?_⟩
  rintro ⟨c, isInside, rfl⟩
  exact ⟨fun clear b isBaseline => clear b isBaseline c isInside, above⟩

theorem titleRoom_of_nested (style : DrawingStyle ℚ) {t : Tree Box} (isBox : t ∈ d.allBoxes)
    (isCompound : t.isCompound = true) {v : Visit ℚ} (asked : AskedBy d.flow t v) (nested : Nested (boxNode d.flow t) v.node)
    (topped : layering.FillsLayers → Topped (boxNode d.flow t) v.node) : TitleRoom layering d style t v := by
  obtain ⟨baselines, written⟩ := nodeShape_baselines style asked isCompound
  have room := padding_le_of_nested isCompound nested
  have clear := frameBaselines_clear_iff t.value.label (drawnZoom d t)
  rw [← baselines] at clear
  obtain ⟨above, above_iff⟩ := textsAbove_iff (s := nodeShape d style v) room
  constructor
  case written => exact written
  case baselines => exact baselines
  case zoom =>
    intro valid
    rw [drawnZoom, Diagram.index_get?_of_valid valid isBox, Option.bind_some]
  case room => exact room
  case above => exact fun few => above (clear.mpr few)
  case above_iff => exact fun fills => (above_iff (exists_child_of_topped isCompound (topped fills))).trans clear

/-- In the drawing of a layout the texts of a container are those of its label and its zoom annotation.  They stand
above the nodes inside if the label has at most three lines, or two with a zoom annotation; and where the layering
leaves no layer empty, only then. -/
theorem titles_above_iff [Metric ℚ] (once : layering.OncePerComponent) (spaced : config.NonNegative)
    (laidOut : (LayoutEngine.layered layering).layout (layoutRequest d config) = .ok placed) (style : DrawingStyle ℚ) :
    (draw d style placed).toSvg.layerContent "container" =
        (placed.walk.filter fun v => v.node.isCompound).map (fun v => (nodeShape d style v).toSvg) ∧
      List.Forall₂ (fun t v => t.isCompound = true → TitleRoom layering d style t v) d.allBoxes placed.walk := by
  have nonneg := layoutRequest_nonNegative d spaced
  have asked := (List.forall₂_and_left _ _).mpr ⟨fun t (mem : t ∈ d.allBoxes) => mem, walk_askedBy laidOut⟩
  have nested := walk_of_allNodes (nested_allNodes once nonneg laidOut)
  have topped : List.Forall₂ (fun t v => layering.FillsLayers → Topped (boxNode d.flow t) v.node)
      d.allBoxes placed.walk := by
    by_cases fills : layering.FillsLayers
    · exact (walk_of_allNodes (topped_allNodes once fills nonneg laidOut)).imp fun _ _ here _ => here
    · exact asked.imp fun _ _ _ filled => absurd filled fills
  constructor
  · -- The layer of a node tells whether others are inside it.
    have same : (fun v : Visit ℚ => decide (boxLayer v.node = .container)) = fun v => v.node.isCompound := by
      funext v
      rw [boxLayer]
      cases v.node.isCompound <;> rfl
    rw [← same]
    exact draw_boxes (.inl rfl)
  · have inside : List.Forall₂ (fun t v => Nested (boxNode d.flow t) v.node ∧
        (layering.FillsLayers → Topped (boxNode d.flow t) v.node)) d.allBoxes placed.walk :=
      nested.mp (fun _ _ here below => ⟨here, below⟩) topped
    refine asked.mp ?_ inside
    rintro t v ⟨isBox, askedHere⟩ ⟨nestedHere, toppedHere⟩ isCompound
    exact titleRoom_of_nested style isBox isCompound askedHere nestedHere toppedHere

end Layouts

attribute [local instance] cityMetric

/-- Two containers with a box in each, in a diagram that runs to the right.  Each has a label and maybe a zoom
annotation. -/
def framesTitled (first second : String × Option String) : Diagram ℚ :=
  { name := some "D"
    title := none
    flow := .leftToRight
    dpi := Diagram.defaultDpi
    style := .plain
    boxes := [
      .node { (default : Box) with name := "S", label? := some first.1, zoom := first.2 } [
        .node { (default : Box) with name := "A" } []],
      .node { (default : Box) with name := "T", label? := some second.1, zoom := second.2 } [
        .node { (default : Box) with name := "B" } []]]
    actors := []
    edges := [⟨⟨"A", none⟩, ⟨"B", none⟩, none, none, ⟨none, false⟩⟩]
    legend := ⟨[], false⟩
    metadata := none }

/-- Three lines, and two with a zoom annotation. -/
def fittingTitles : Diagram ℚ := framesTitled ("one\ntwo\nthree", none) ("one\ntwo", some "detail")

/-- Four lines, and three with a zoom annotation. -/
def tallTitles : Diagram ℚ := framesTitled ("one\ntwo\nthree\nfour", none) ("one\ntwo\nthree", some "detail")

/-- The style without a configuration. -/
def plainStyle : DrawingStyle ℚ := .of .standard .builtin "#555"

/-- Titles that fit stand above the nodes inside. -/
theorem fittingTitles_above :
    threePlaces.OncePerComponent ∧ threePlaces.FillsLayers ∧ (LayoutConfig.standard : LayoutConfig ℚ).NonNegative ∧
      ∃ placed, (LayoutEngine.layered threePlaces).layout (layoutRequest fittingTitles .standard) = .ok placed ∧
        List.Forall₂ (fun t v => t.isCompound = true → TitleRoom threePlaces fittingTitles plainStyle t v)
          fittingTitles.allBoxes placed.walk ∧
        ∀ v ∈ placed.walk, v.node.isCompound = true →
          TextsAbove (nodeShape fittingTitles plainStyle v) v.node.children := by
  have once : threePlaces.OncePerComponent := by
    intro edges components answered
    cases answered
    decide
  have spaced := LayoutConfig.standard_nonNegative
  have checked : (((LayoutEngine.layered threePlaces).layout (layoutRequest fittingTitles .standard)).toOption.any
      fun placed => decide (∀ v ∈ placed.walk, v.node.isCompound = true →
        TextsAbove (nodeShape fittingTitles plainStyle v) v.node.children)) = true := by
    decide +kernel
  obtain ⟨placed, read, above⟩ := (Option.any_eq_true _ _).mp checked
  have laidOut := eq_ok_of_toOption_eq_some read
  have room := (titles_above_iff once spaced laidOut plainStyle).2
  exact ⟨once, fillsLayers_of_exact threePlaces, spaced, placed, laidOut, room, of_decide_eq_true above⟩

/-- The last line of a label with four lines has its baseline on the upper side of the node inside, and a zoom
annotation after three lines is below it. -/
theorem tallTitles_covered :
    tallTitles.validate = [] ∧
      ∃ placed, (LayoutEngine.layered threePlaces).layout (layoutRequest tallTitles .standard) = .ok placed ∧
        ((placed.walk.filter fun v => v.node.isCompound).map fun v =>
          ((nodeShape tallTitles plainStyle v).baselines, v.node.children.map fun c => c.value.y)) =
            [([22, 38, 54, 70], [70]), ([22, 38, 54, 72], [70])] ∧
        ¬ ∀ v ∈ placed.walk, v.node.isCompound = true →
          TextsAbove (nodeShape tallTitles plainStyle v) v.node.children := by
  have valid : tallTitles.validate = [] := by decide +kernel
  have checked : (((LayoutEngine.layered threePlaces).layout (layoutRequest tallTitles .standard)).toOption.any
      fun placed => decide (((placed.walk.filter fun v => v.node.isCompound).map fun v =>
          ((nodeShape tallTitles plainStyle v).baselines, v.node.children.map fun c => c.value.y)) =
            [([22, 38, 54, 70], [70]), ([22, 38, 54, 72], [70])]) &&
        decide (¬ ∀ v ∈ placed.walk, v.node.isCompound = true →
          TextsAbove (nodeShape tallTitles plainStyle v) v.node.children)) = true := by
    decide +kernel
  obtain ⟨placed, read, checks⟩ := (Option.any_eq_true _ _).mp checked
  rw [Bool.and_eq_true, decide_eq_true_eq, decide_eq_true_eq] at checks
  exact ⟨valid, placed, eq_ok_of_toOption_eq_some read, checks⟩

end BoxDiagram
