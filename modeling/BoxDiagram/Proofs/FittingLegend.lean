/-
Module: BoxDiagram.Proofs.FittingLegend
Purpose: The legend of a drawing.  It explains every colour and lists every port if that is asked for, its panel holds all
  of its rows, and the drawing holds the panel below the content.
Main exports: Diagram.listedPorts, LegendPanel.elements, draw_legendLayer, PanelExplains, PanelLines, PanelHolds,
  PanelInDrawing, draw_legend_eq_none_iff, draw_legend_panel, draw_legend_fits
-/
import BoxDiagram.Proofs.PaintersOrder
import BoxDiagram.Proofs.RoundedBends
import BoxDiagram.Proofs.TextRows

namespace BoxDiagram

open scoped ExactNumbers

-- The operations of a field are found as its own, and not again through the interface.
attribute [-instance] Scalar.toAdd Scalar.toSub Scalar.toMul Scalar.toDiv Scalar.toNeg Scalar.toLT Scalar.toLE
  Scalar.toOfScientific

/-! ### What a legend lists -/

/-- The ports that the legend lists: if there is a table of ports, all of them, box by box in preorder. -/
def Diagram.listedPorts {α : Type} (d : Diagram α) : List PortEntry :=
  if d.legend.portTable then
    (Tree.preorderForest d.boxes).flatMap fun t => t.value.ports.map fun p => ⟨t.value.name, p.label, p.direction⟩
  else []

theorem Diagram.listedPorts_eq {α : Type} (d : Diagram α) : d.legend.listedPorts d.allPorts = d.listedPorts := by
  rw [Legend.listedPorts, allPorts, allBoxes, Tree.visit_eq_preorderForest, listedPorts]

theorem Diagram.listedPorts_ne_nil_iff {α : Type} {d : Diagram α} :
    d.listedPorts ≠ [] ↔ d.legend.portTable = true ∧ ∃ t ∈ Tree.preorderForest d.boxes, t.value.ports ≠ [] := by
  simp [listedPorts]

/-! ### The layer of the legend -/

section Layer

variable {α : Type} [Scalar α] [NumberText α]

/-- The elements of a legend: frame, title, swatches, and the rows from top to bottom. -/
def LegendPanel.elements (p : LegendPanel α) : List Svg.Node :=
  p.frame :: p.title.toSvg :: p.swatches.map Swatch.toSvg ++ p.rows.map Caption.toSvg

variable [Metric α] {d : Diagram α} {style : DrawingStyle α} {g : PositionedGraph α}

/-- The layer of the legend holds the elements of the legend and nothing else. -/
theorem draw_legendLayer : (draw d style g).toSvg.layerContent "legend" =
    (draw d style g).legend.elim [] LegendPanel.elements := by
  have background : (draw d style g).background.inLayer .legend = [] :=
    LayeredOutput.inLayer_ofLayer_of_ne (by decide) _
  have content : (draw d style g).content.inLayer .legend = [] := by
    refine (drawContent_inLayer_box (by decide) (by decide) (by decide)).trans ?_
    simp [boxLayer_ne]
  refine ((draw d style g).layerContent_toSvg .legend).trans ?_
  rw [background, content]
  cases (draw d style g).legend with
  | none => rfl
  | some panel => exact LayeredOutput.inLayer_ofLayer .legend panel.elements

end Layer

/-! ### Rows of entries -/

section Exact

variable {K : Type} [Field K] [LinearOrder K] [IsStrictOrderedRing K]

@[simp] theorem legendLeft_eq : (legendLeft : K) = 20 := by norm_num [legendLeft]

@[simp] theorem legendPadding_eq : (legendPadding : K) = 15 := by norm_num [legendPadding]

@[simp] theorem legendLineHeight_eq : (legendLineHeight : K) = 20 := by norm_num [legendLineHeight]

theorem stackRows_rows {β : Type} (y : K) (entries : List β) :
    RowsBetween 20 y ((stackRows y entries).1.map Prod.fst) (stackRows y entries).2 := by
  induction entries generalizing y with
  | nil => exact .nil 20 y
  | cons entry rest ih =>
      have first : RowsBetween 20 y [y + legendLineHeight] (y + legendLineHeight) :=
        .singleton (by norm_num) (by norm_num)
      exact first.append (ih (y + legendLineHeight))

omit [IsStrictOrderedRing K] in
/-- The rows are those of the entries, in their order. -/
theorem map_stackRows {β γ : Type} (y : K) (entries : List β) (f : β → γ) :
    ((stackRows y entries).1.map fun row => f row.2) = entries.map f := by
  induction entries generalizing y with
  | nil => rfl
  | cons entry rest ih => exact congrArg (f entry :: ·) (ih (y + legendLineHeight))

omit [IsStrictOrderedRing K] in
theorem mem_of_mem_stackRows {β : Type} {y : K} {entries : List β} {row : K × β} (mem : row ∈ (stackRows y entries).1) :
    row.2 ∈ entries := by
  have entry := List.mem_map_of_mem (f := fun row => row.2) mem
  rw [map_stackRows y entries fun entry => entry] at entry
  simpa using entry

/-- The heading of a table of ports and its rows; without ports there is neither. -/
theorem portTable_rows (y : K) (listed : List PortEntry) :
    RowsBetween 20 y
      ((if listed.isEmpty then [] else [y + (legendLineHeight + 4.0)]) ++
        (stackRows (y + (legendLineHeight + 4.0)) listed).1.map Prod.fst)
      (if listed.isEmpty then y else (stackRows (y + (legendLineHeight + 4.0)) listed).2) := by
  cases listed with
  | nil => exact .nil 20 y
  | cons p rest =>
      have heading : RowsBetween 20 y [y + (legendLineHeight + 4.0)] (y + (legendLineHeight + 4.0)) :=
        .singleton (by norm_num) (by norm_num)
      exact heading.append (stackRows_rows _ _)

/-! ### The width of the panel -/

theorem PortDirection.tag_eq (direction : PortDirection) : direction.tag = if direction = .input then "IN" else "OUT" := by
  cases direction <;> simp [PortDirection.tag]

/-- Every row that is measured fits between the margins of the panel, with some space left for the dots. -/
theorem textWidth_le_legendWidth {legend : Legend} {listed : List PortEntry} {text : String}
    (mem : text ∈ legend.edgeColours.map colourRowText ++ listed.map measuredPortRow) :
    textWidth (6.5 : K) text + 50 ≤ legendWidth legend listed := by
  have longest := textWidth_le_longest (by norm_num : (0 : K) ≤ 6.5) mem
  have columns := le_max_right (10 : K) (Text.longest (legend.edgeColours.map colourRowText ++ listed.map measuredPortRow))
  rw [legendWidth, ExactNumbers.larger_eq_max, ExactNumbers.ofNat_eq, legendPadding_eq]
  apply le_max_of_le_left
  norm_num at longest ⊢
  linarith

/-- The tags that are shown are at most as long as the one that is measured. -/
theorem length_portRowText_le (p : PortEntry) : (portRowText p).length ≤ (measuredPortRow p).length := by
  have tag : p.direction.tag.length ≤ "OUT".length := by
    cases p.direction
    case input => decide
    case output | unknown => exact le_refl _
  have measured : " (OUT)".length = " (".length + "OUT".length + ")".length := by decide
  simp only [portRowText, measuredPortRow, String.length_append, measured]
  omega

theorem colourRow_le_legendWidth {legend : Legend} (listed : List PortEntry) {entry : String × String}
    (mem : entry ∈ legend.edgeColours) : textWidth (6.5 : K) (colourRowText entry) + 50 ≤ legendWidth legend listed :=
  textWidth_le_legendWidth (List.mem_append_left _ (List.mem_map_of_mem mem))

theorem portRow_le_legendWidth (legend : Legend) {listed : List PortEntry} {p : PortEntry} (mem : p ∈ listed) :
    textWidth (6.5 : K) (portRowText p) + 50 ≤ legendWidth legend listed := by
  have measured : textWidth (6.5 : K) (measuredPortRow p) + 50 ≤ legendWidth legend listed :=
    textWidth_le_legendWidth (List.mem_append_right _ (List.mem_map_of_mem mem))
  have shorter : textWidth (6.5 : K) (portRowText p) ≤ textWidth 6.5 (measuredPortRow p) := by
    apply mul_le_mul_of_nonneg_right _ (by norm_num)
    exact_mod_cast length_portRowText_le p
  linarith

/-! ### The panel -/

/-- A panel explains the colours of a legend and these ports. -/
structure PanelExplains (legend : Legend) (listed : List PortEntry) (paint : String → String) (panel : LegendPanel K) :
    Prop where
  title : panel.title.content = "LEGEND"
  /-- One row for every colour, in their order. -/
  colours : panel.colourRows.map Caption.content = legend.edgeColours.map fun entry => entry.1 ++ ": " ++ entry.2
  /-- One dot for every colour, painted in it, -/
  swatches : panel.swatches.map Swatch.fill = legend.edgeColours.map fun entry => paint entry.1
  /-- left of its row and on the same line. -/
  beside : List.Forall₂ (fun swatch row => swatch.x + 6 < row.x ∧ swatch.y = row.baseline - 4) panel.swatches
    panel.colourRows
  heading : panel.portHeading.toList.map Caption.content = if listed = [] then [] else ["Ports"]
  /-- One row for every port that is listed, in their order. -/
  ports : panel.portRows.map Caption.content = listed.map fun p =>
    p.boxName ++ " / " ++ p.label ++ " (" ++ (if p.direction = .input then "IN" else "OUT") ++ ")"

/-- The baselines of a panel.  From below the title down to the lower margin the rows keep their distance. -/
structure PanelLines (panel : LegendPanel K) : Prop where
  title : panel.title.baseline = panel.top + 20
  rows : RowsBetween 20 (panel.top + 28) (panel.rows.map Caption.baseline) (panel.top + panel.panelHeight - 15)

/-- A panel holds its texts. -/
structure PanelHolds (panel : LegendPanel K) : Prop where
  /-- The title is the uppermost text, and the rows follow with so much between them. -/
  spaced : ((panel.title :: panel.rows).map Caption.baseline).Pairwise fun upper lower => upper + 20 ≤ lower
  inside : ∀ c ∈ panel.title :: panel.rows, panel.top < c.baseline ∧ c.baseline < panel.top + panel.panelHeight
  /-- The rows of colours and ports end inside of the panel. -/
  wide : ∀ c ∈ panel.colourRows ++ panel.portRows,
    legendLeft < c.x ∧ c.x + textWidth 6.5 c.content ≤ legendLeft + panel.width

theorem PanelLines.holds {panel : LegendPanel K} (lines : PanelLines panel)
    (wide : ∀ c ∈ panel.colourRows ++ panel.portRows,
      legendLeft < c.x ∧ c.x + textWidth 6.5 c.content ≤ legendLeft + panel.width) : PanelHolds panel := by
  have title := lines.title
  have ordered := lines.rows.ordered
  have begun := lines.rows.begun
  have ended := lines.rows.ended
  rw [List.forall_mem_map] at begun ended
  refine ⟨?_, ?_, wide⟩
  · rw [List.map_cons, List.pairwise_cons, List.forall_mem_map]
    refine ⟨fun c mem => ?_, lines.rows.spaced⟩
    linarith [begun c mem]
  · rw [List.forall_mem_cons]
    refine ⟨⟨by linarith, by linarith⟩, fun c mem => ?_⟩
    constructor
    · linarith [begun c mem]
    · linarith [ended c mem]

section Panel

variable {legend : Legend} {ports : List PortEntry} {startY : K} {paint : String → String} {panel : LegendPanel K}

omit [IsStrictOrderedRing K] in
/-- A legend gets a panel exactly if it has something to explain. -/
theorem legendPanel?_eq_none_iff :
    legendPanel? legend ports startY paint = none ↔ legend.edgeColours = [] ∧ legend.listedPorts ports = [] := by
  simp [legendPanel?]

theorem legendPanel?_top (found : legendPanel? legend ports startY paint = some panel) : panel.top = startY + 10 := by
  simp only [legendPanel?, Option.ite_none_left_eq_some, Option.some.injEq] at found
  obtain ⟨-, rfl⟩ := found
  norm_num

theorem legendPanel?_explains (found : legendPanel? legend ports startY paint = some panel) :
    PanelExplains legend (legend.listedPorts ports) paint panel := by
  simp only [legendPanel?, Option.ite_none_left_eq_some, Option.some.injEq] at found
  obtain ⟨-, rfl⟩ := found
  constructor
  case title => rfl
  case colours =>
    rw [List.map_map]
    exact map_stackRows _ legend.edgeColours colourRowText
  case swatches =>
    rw [List.map_map]
    exact map_stackRows _ legend.edgeColours fun entry => paint entry.1
  case beside =>
    simp only [List.forall₂_map_left_iff, List.forall₂_map_right_iff, List.forall₂_same]
    intro row _
    constructor <;> norm_num [legendCaption]
  case heading => cases legend.listedPorts ports <;> rfl
  case ports =>
    rw [List.map_map]
    exact (map_stackRows _ (legend.listedPorts ports) portRowText).trans (by simp [portRowText, PortDirection.tag_eq])

/-- The baselines are those of the rows of entries, moved down to the panel. -/
theorem legendPanel?_lines (found : legendPanel? legend ports startY paint = some panel) : PanelLines panel := by
  simp only [legendPanel?, Option.ite_none_left_eq_some, Option.some.injEq] at found
  obtain ⟨-, rfl⟩ := found
  generalize legend.listedPorts ports = listed
  have colours := stackRows_rows (legendLineHeight + 8.0 : K) legend.edgeColours
  have rows := (colours.append (portTable_rows _ listed)).shift (startY + 10.0)
  constructor
  case title => norm_num [legendCaption]
  case rows =>
    convert rows using 1
    · norm_num [add_assoc]
    · cases listed <;> simp [LegendPanel.rows, legendCaption, Function.comp_def]
    · rw [legendPadding_eq, add_sub_assoc, add_sub_cancel_right]

theorem legendPanel?_wide (found : legendPanel? legend ports startY paint = some panel) :
    ∀ c ∈ panel.colourRows ++ panel.portRows,
      legendLeft < c.x ∧ c.x + textWidth 6.5 c.content ≤ legendLeft + panel.width := by
  simp only [legendPanel?, Option.ite_none_left_eq_some, Option.some.injEq] at found
  obtain ⟨-, rfl⟩ := found
  rw [List.forall_mem_append, List.forall_mem_map, List.forall_mem_map]
  constructor
  · intro row isRow
    have fits := colourRow_le_legendWidth (K := K) (legend.listedPorts ports) (mem_of_mem_stackRows isRow)
    norm_num [legendCaption] at fits ⊢
    linarith
  · intro row isRow
    have fits := portRow_le_legendWidth (K := K) legend (mem_of_mem_stackRows isRow)
    norm_num [legendCaption] at fits ⊢
    linarith

end Panel

/-! ### The panel in the drawing -/

section Document

theorem headingHeight_nonneg (d : Diagram K) : 0 ≤ headingHeight d := by
  rw [headingHeight]
  apply add_nonneg
  · split <;> norm_num
  · split <;> norm_num

variable [Metric K] {d : Diagram K} {style : DrawingStyle K} {g : PositionedGraph K}

/-- A panel is below the content of a drawing, and the drawing has space for it. -/
structure PanelInDrawing (d : Diagram K) (style : DrawingStyle K) (g : PositionedGraph K) (panel : LegendPanel K) :
    Prop where
  /-- Above the panel are the heading, a margin, and all of the layout. -/
  below : headingHeight d + style.canvasPadding + g.height < panel.top
  left : 0 ≤ (legendLeft : K)
  right : legendLeft + panel.width ≤ (draw d style g).width
  upper : 0 ≤ panel.top
  lower : panel.top + panel.panelHeight ≤ (draw d style g).height

theorem draw_panelInDrawing (height : 0 ≤ g.height) (padding : 0 ≤ style.canvasPadding) {panel : LegendPanel K}
    (drawn : (draw d style g).legend = some panel) : PanelInDrawing d style g panel := by
  have found : legendPanel? d.legend d.allPorts
      (g.height + style.canvasPadding * 2.0 + headingHeight d - style.canvasPadding) style.colours.paint = some panel :=
    drawn
  have top := legendPanel?_top found
  have heading := headingHeight_nonneg d
  have drawingWidth : (draw d style g).width = (draw d style g).legend.elim (g.width + style.canvasPadding * 2.0)
      fun panel => Scalar.larger (g.width + style.canvasPadding * 2.0) panel.requiredWidth := rfl
  have drawingHeight : (draw d style g).height = g.height + style.canvasPadding * 2.0 + headingHeight d +
      (draw d style g).legend.elim 0.0 LegendPanel.height := rfl
  rw [drawn, Option.elim_some] at drawingWidth drawingHeight
  have required : panel.width + legendLeft * 2.0 ≤ (draw d style g).width := by
    rw [drawingWidth, ExactNumbers.larger_eq_max]
    exact le_max_right _ _
  rw [LegendPanel.height] at drawingHeight
  norm_num at top drawingHeight required
  constructor
  case below => linarith
  case left => norm_num
  case right =>
    rw [legendLeft_eq]
    linarith
  case upper => linarith
  case lower => linarith

omit [IsStrictOrderedRing K] in
theorem draw_legend_eq_none_iff (d : Diagram K) (style : DrawingStyle K) (g : PositionedGraph K) :
    (draw d style g).legend = none ↔ d.legend.edgeColours = [] ∧ d.listedPorts = [] := by
  rw [← d.listedPorts_eq]
  exact legendPanel?_eq_none_iff

theorem draw_legend_panel {panel : LegendPanel K} (drawn : (draw d style g).legend = some panel) :
    PanelExplains d.legend d.listedPorts style.colours.paint panel ∧ PanelHolds panel := by
  have explains := legendPanel?_explains drawn
  rw [d.listedPorts_eq] at explains
  exact ⟨explains, (legendPanel?_lines drawn).holds (legendPanel?_wide drawn)⟩

/-- A drawing has a legend if there is something to explain.  The legend then shows all of it, and it fits. -/
theorem draw_legend_fits [NumberText K] (d : Diagram K) (style : DrawingStyle K) {g : PositionedGraph K}
    (height : 0 ≤ g.height) (padding : 0 ≤ style.canvasPadding) :
    ((draw d style g).toSvg.layerContent "legend" ≠ [] ↔
      d.legend.edgeColours ≠ [] ∨
        d.legend.portTable = true ∧ ∃ t ∈ Tree.preorderForest d.boxes, t.value.ports ≠ []) ∧
      ((draw d style g).toSvg.layerContent "legend" ≠ [] →
        ∃ panel, (draw d style g).legend = some panel ∧
          (draw d style g).toSvg.layerContent "legend" = panel.elements ∧
            PanelExplains d.legend d.listedPorts style.colours.paint panel ∧ PanelHolds panel ∧
              PanelInDrawing d style g panel) ∧
      (draw d style g).toSvg.attribute? "width" = some (NumberText.print (draw d style g).width) ∧
        (draw d style g).toSvg.attribute? "height" = some (NumberText.print (draw d style g).height) := by
  rw [← Diagram.listedPorts_ne_nil_iff, draw_legendLayer]
  cases drawn : (draw d style g).legend with
  | none =>
      obtain ⟨noColours, noPorts⟩ := (draw_legend_eq_none_iff d style g).mp drawn
      refine ⟨iff_of_false (by simp) ?_, fun legend => absurd rfl legend, rfl, rfl⟩
      simp [noColours, noPorts]
  | some panel =>
      have something : ¬ (d.legend.edgeColours = [] ∧ d.listedPorts = []) := by
        rw [← draw_legend_eq_none_iff d style g, drawn]
        simp
      obtain ⟨explains, holds⟩ := draw_legend_panel drawn
      have fits : PanelInDrawing d style g panel := draw_panelInDrawing height padding drawn
      exact ⟨iff_of_true (by simp [LegendPanel.elements]) (not_and_or.mp something),
        fun _ => ⟨panel, rfl, rfl, explains, holds, fits⟩, rfl, rfl⟩

end Document

end Exact

/-- A box with a port inside of another box.  The legend explains a colour and lists the ports. -/
def innerPort : Diagram ℚ :=
  { name := none
    title := some "Boxes"
    flow := .leftToRight
    dpi := Diagram.defaultDpi
    style := .plain
    boxes := [
      .node { (default : Box) with name := "Outer" } [
        .node { (default : Box) with name := "Inner", depth := 1, ports := [⟨"out", .output, none, none⟩] } []]]
    actors := []
    edges := []
    legend := ⟨[("blue", "data")], true⟩
    metadata := none }

def innerPortLayout : PositionedGraph ℚ :=
  { width := 200
    height := 120
    children := [.node ⟨"Outer", 0, 0, 200, 120, ["Outer"], []⟩ [.node ⟨"Inner", 20, 40, 150, 50, ["Inner"], []⟩ []]]
    edges := [] }

attribute [local instance] cityMetric

/-- The legend has a row for the colour and one for the inner port. -/
theorem innerPort_legend_fits :
    0 ≤ innerPortLayout.height ∧ (0 : ℚ) ≤ (DrawingStyle.standard : DrawingStyle ℚ).canvasPadding ∧
      ∃ panel : LegendPanel ℚ,
        (draw innerPort .standard innerPortLayout).toSvg.layerContent "legend" = panel.elements ∧
        panel.rows.map Caption.content = ["blue: data", "Ports", "Inner / out (OUT)"] ∧
        PanelHolds panel ∧ PanelInDrawing innerPort .standard innerPortLayout panel := by
  have height : 0 ≤ innerPortLayout.height := by decide +kernel
  have padding : (0 : ℚ) ≤ (DrawingStyle.standard : DrawingStyle ℚ).canvasPadding := by decide +kernel
  obtain ⟨shownIff, fits, -⟩ := draw_legend_fits innerPort .standard height padding
  obtain ⟨panel, -, content, explains, holds, inDrawing⟩ := fits (shownIff.mpr (.inl (by decide)))
  refine ⟨height, padding, panel, content, ?_, holds, inDrawing⟩
  rw [LegendPanel.rows, List.map_append, List.map_append, explains.colours, explains.heading, explains.ports]
  decide +kernel

end BoxDiagram
