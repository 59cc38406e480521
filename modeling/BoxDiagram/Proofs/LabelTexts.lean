/-
Module: BoxDiagram.Proofs.LabelTexts
Purpose: The text of a label.  The lines of a text element are read off the element, and those of a label are inside of
  the rectangle that is reserved for the label.
Main exports: Svg.WrittenLine, Svg.Node.writtenLines, writtenLines_caption, writtenLines_textBlock, LabelShape.at,
  TextInside, labelText_inside
-/
import BoxDiagram.Proofs.DrawnEdges
import BoxDiagram.Proofs.RoundedBends
import BoxDiagram.Proofs.TextRows

namespace BoxDiagram

/-! ### The lines of a text element -/

namespace Svg

/-- A line that a text element writes. -/
structure WrittenLine where
  content : String
  /-- Where the line is from left to right. -/
  x : Option String
  /-- How far the line is below the place of the element. -/
  drop : ℕ
deriving DecidableEq

namespace Node

/-- How far a span goes down from the line before. -/
def stepDown (attributes : List (String × String)) : ℕ :=
  (attributes.lookup "dy").elim 0 fun dy => digitsValue dy.toList

/-- The lines of the spans among these nodes; the line before them is `drop` below the place of the element. -/
def spanLines (drop : ℕ) : List Node → List WrittenLine
  | [] => []
  | .text _ :: rest => spanLines drop rest
  | .element _ attributes children :: rest =>
      ⟨shownIn children, attributes.lookup "x", drop + stepDown attributes⟩ ::
        spanLines (drop + stepDown attributes) rest

/-- The lines of a text element.  Without spans it has one, its own text. -/
def writtenLines : Node → List WrittenLine
  | .text _ => []
  | .element _ attributes children =>
      match spanLines 0 children with
      | [] => [⟨shownIn children, attributes.lookup "x", 0⟩]
      | line :: rest => line :: rest

end Node

end Svg

section Elements

variable {α : Type} [NumberText α]

theorem digitsValue_toString (n : ℕ) : digitsValue (toString n).toList = n := by
  rw [Nat.toString_eq_repr, Nat.toList_repr, digitsValue_toDigits]

theorem writtenLines_caption (c : Caption α) :
    c.toSvg.writtenLines = [⟨c.content, some (NumberText.print c.x), 0⟩] := by
  have shown : Svg.Node.shownIn [.text "", .text c.content] = c.content := by simp [Svg.Node.shownIn, Svg.Node.shown]
  rw [Caption.toSvg, Svg.textElement, Svg.Node.writtenLines, Svg.Node.spanLines, Svg.Node.spanLines, Svg.Node.spanLines,
    shown]
  rfl

namespace TextBlock

/-- The span of a line. -/
def span (b : TextBlock α) (entry : String × ℕ) : Svg.Node :=
  Svg.textSpan [("x", NumberText.print b.x), ("dy", if entry.2 = 0 then "0" else toString b.step)] entry.1

/-- The line that the span is for. -/
def written (b : TextBlock α) (entry : String × ℕ) : Svg.WrittenLine :=
  ⟨entry.1, some (NumberText.print b.x), entry.2 * b.step⟩

/-- One span writes one line; the first one stays where the element is. -/
theorem spanLines_span (b : TextBlock α) (drop : ℕ) (entry : String × ℕ) (rest : List Svg.Node) :
    Svg.Node.spanLines drop (b.span entry :: rest) =
      ⟨entry.1, some (NumberText.print b.x), drop + if entry.2 = 0 then 0 else b.step⟩ ::
        Svg.Node.spanLines (drop + if entry.2 = 0 then 0 else b.step) rest := by
  have shown : Svg.Node.shownIn [.text "", .text entry.1] = entry.1 := by simp [Svg.Node.shownIn, Svg.Node.shown]
  have down : Svg.Node.stepDown [("x", NumberText.print b.x), ("dy", if entry.2 = 0 then "0" else toString b.step)] =
      if entry.2 = 0 then 0 else b.step := by
    split
    · rfl
    · exact digitsValue_toString b.step
  rw [span, Svg.textSpan, Svg.Node.spanLines, shown, down]
  rfl

/-- After the first line every span goes down one step. -/
theorem spanLines_below (b : TextBlock α) (lines : List String) (k : ℕ) :
    Svg.Node.spanLines (k * b.step) ((lines.zipIdx (k + 1)).map b.span) = (lines.zipIdx (k + 1)).map b.written := by
  induction lines generalizing k with
  | nil => rfl
  | cons line rest ih =>
      have below : k * b.step + b.step = (k + 1) * b.step := by ring
      rw [List.zipIdx_cons, List.map_cons, spanLines_span, List.map_cons, if_neg (Nat.succ_ne_zero k), below, ih]
      rfl

/-- A block writes all of its lines, in their order and a step apart. -/
theorem writtenLines_toSvg (b : TextBlock α) (some : b.lines ≠ []) :
    b.toSvg.writtenLines = b.lines.zipIdx.map b.written := by
  obtain ⟨line, rest, lines⟩ := List.exists_cons_of_ne_nil some
  have spans : Svg.Node.spanLines 0 (.text "" :: b.lines.zipIdx.map b.span) = b.lines.zipIdx.map b.written := by
    have below := b.spanLines_below rest 0
    rw [Nat.zero_mul] at below
    rw [Svg.Node.spanLines, lines, List.zipIdx_cons, List.map_cons, spanLines_span, if_pos rfl, below, List.map_cons,
      written, Nat.zero_mul]
  have element : b.toSvg = Svg.textElement (placeAttributes b.x b.baseline ++ b.look) (b.lines.zipIdx.map b.span) := rfl
  rw [element, Svg.textElement, Svg.Node.writtenLines, spans, lines]
  rfl

end TextBlock

end Elements

/-! ### The text of a label -/

section Labels

variable {α : Type} [Scalar α]

/-- The label with a text at an anchor. -/
def LabelShape.at (text colour : String) (anchor : Point α) : LabelShape α :=
  ⟨.at (labelSize text) anchor, labelSize text, text, colour⟩

/-- The baseline of the first line of a label. -/
def firstBaseline (anchor : Point α) (text : String) : α := (labelBaselines anchor text).headD anchor.y

variable [NumberText α]

theorem textToSvg_attributes (text colour : String) (anchor : Point α) :
    (LabelShape.at text colour anchor).textToSvg.attribute? "y" = some (NumberText.print (firstBaseline anchor text)) ∧
      (LabelShape.at text colour anchor).textToSvg.attribute? "text-anchor" = some "middle" ∧
      (LabelShape.at text colour anchor).textToSvg.attribute? "font-size" = some "10" := by
  rw [LabelShape.textToSvg]
  split <;> exact ⟨rfl, rfl, rfl⟩

/-- A label of one line is written like a label of several lines. -/
theorem writtenLines_textToSvg (text colour : String) (anchor : Point α) :
    (LabelShape.at text colour anchor).textToSvg.writtenLines =
      (Text.lines text).zipIdx.map fun entry => ⟨entry.1, some (NumberText.print anchor.x), entry.2 * 14⟩ := by
  rw [LabelShape.textToSvg]
  split
  case h_1 line lines =>
    have only : Text.lines text = [line] := lines
    rw [writtenLines_caption, only]
    rfl
  case h_2 =>
    exact TextBlock.writtenLines_toSvg _ (Text.lines_ne_nil text)

omit [NumberText α]

variable [Metric α]

theorem findLabelPosition_at (points : List (Point α)) (size : Size α) (placed : PlacedRects α) :
    ∃ anchor, findLabelPosition points size placed = .at size anchor := by
  rw [findLabelPosition]
  split
  case h_1 place found =>
    obtain ⟨anchor, -, isPlace⟩ := List.mem_map.mp (List.mem_of_find?_eq_some found)
    exact ⟨anchor, isPlace.symm⟩
  case h_2 => exact ⟨_, rfl⟩

/-- Wherever a label is placed, its rectangle is the one that belongs to the anchor. -/
theorem EdgePaint.placeLabel?_at (p : EdgePaint α) (placed : PlacedRects α) :
    ∀ label ∈ p.placeLabel? placed, ∃ anchor, label = .at label.text label.colour anchor := by
  intro label mem
  rw [placeLabel?] at mem
  split at mem
  case h_1 text points others _ _ =>
    obtain rfl := Option.some.inj mem
    obtain ⟨anchor, place⟩ := findLabelPosition_at points (labelSize text) placed
    refine ⟨anchor, ?_⟩
    rw [LabelShape.at, place]
  case h_2 => cases mem

end Labels

open scoped ExactNumbers

-- The operations of a field are found as its own, and not again through the interface.
attribute [-instance] Scalar.toAdd Scalar.toSub Scalar.toMul Scalar.toDiv Scalar.toNeg Scalar.toLT Scalar.toLE
  Scalar.toOfScientific

section Exact

variable {K : Type} [Field K] [LinearOrder K] [IsStrictOrderedRing K]

theorem labelRect_middle (anchor : Point K) (size : Size K) :
    ((labelRect anchor size).minX + (labelRect anchor size).maxX) / 2 = anchor.x := by
  norm_num [labelRect, Bounds.ofTopLeft]
  ring

theorem labelRect_maxY (anchor : Point K) (text : String) :
    (labelRect anchor (labelSize text)).maxY =
      (labelRect anchor (labelSize text)).minY + (14 * (Text.lines text).length + 8) := by
  norm_num [labelRect, labelSize, Bounds.ofTopLeft]
  ring

theorem textWidth_lt_labelRect (anchor : Point K) {text line : String} (isLine : line ∈ Text.lines text) :
    textWidth 7 line < (labelRect anchor (labelSize text)).maxX - (labelRect anchor (labelSize text)).minX := by
  have longest := textWidth_le_longest (by norm_num : (0 : K) ≤ 7) isLine
  norm_num [labelRect, labelSize, Bounds.ofTopLeft] at longest ⊢
  linarith

/-- A single line is 18 below the upper edge of the rectangle, and the first one of several lines 22. -/
theorem firstBaseline_eq (anchor : Point K) (text : String) :
    firstBaseline anchor text = (labelRect anchor (labelSize text)).minY +
      if (Text.lines text).length = 1 then 18 else 22 := by
  rw [firstBaseline, labelBaselines, labelRect, labelSize, Bounds.ofTopLeft]
  cases lines : Text.lines text with
  | nil => exact absurd lines (Text.lines_ne_nil text)
  | cons line rest =>
      cases rest with
      | nil =>
          norm_num
          ring
      | cons next others =>
          norm_num [List.range_succ_eq_map]
          ring

omit [IsStrictOrderedRing K] in
/-- All lines are where they are said to be: the first one, and the others farther down by 14 each. -/
theorem labelBaselines_eq (anchor : Point K) (text : String) :
    labelBaselines anchor text =
      (Text.lines text).zipIdx.map fun entry => firstBaseline anchor text + (entry.2 * 14 : ℕ) := by
  have numbers : (Text.lines text).zipIdx.map Prod.snd = List.range (Text.lines text).length := by
    rw [List.zipIdx_map_snd, List.range_eq_range']
  have positions : ((Text.lines text).zipIdx.map fun entry => firstBaseline anchor text + (entry.2 * 14 : ℕ)) =
      (List.range (Text.lines text).length).map fun i => firstBaseline anchor text + (i * 14 : ℕ) := by
    rw [← numbers, List.map_map]
    rfl
  rw [positions, firstBaseline, labelBaselines]
  cases Text.lines text with
  | nil => simp
  | cons line rest => cases rest <;> simp [List.range_succ_eq_map]

/-- With every line the rectangle gets 14 higher, and the lines get down by as much. -/
theorem baseline_le_maxY (anchor : Point K) {text : String} {i : ℕ} (inside : i < (Text.lines text).length) :
    firstBaseline anchor text + (i * 14 : ℕ) ≤ (labelRect anchor (labelSize text)).maxY := by
  have down : (if (Text.lines text).length = 1 then 18 else 22) + i * 14 ≤ 14 * (Text.lines text).length + 8 := by
    split <;> omega
  have downInField : (if (Text.lines text).length = 1 then 18 else 22) + ((i * 14 : ℕ) : K) ≤
      14 * (Text.lines text).length + 8 := by exact_mod_cast down
  rw [firstBaseline_eq, labelRect_maxY]
  linarith

/-- The text of a label is drawn inside of the rectangle of the label. -/
structure TextInside [NumberText K] (label : LabelShape K) (first : K) : Prop where
  baseline : label.textToSvg.attribute? "y" = some (NumberText.print first)
  baselines : labelBaselines label.placement.anchor label.text =
    label.textToSvg.writtenLines.map fun line => first + line.drop
  centred : label.textToSvg.attribute? "text-anchor" = some "middle"
  fontSize : label.textToSvg.attribute? "font-size" = some "10"
  /-- The lines are 14 apart, and all of them have the anchor in the middle. -/
  lines : label.textToSvg.writtenLines = (Text.lines label.text).zipIdx.map fun entry =>
    ⟨entry.1, some (NumberText.print label.placement.anchor.x), entry.2 * 14⟩
  middle : (label.placement.rect.minX + label.placement.rect.maxX) / 2 = label.placement.anchor.x
  narrow : ∀ line ∈ Text.lines label.text,
    textWidth 7 line < label.placement.rect.maxX - label.placement.rect.minX
  upper : label.placement.rect.minY + 10 ≤ first
  lower : ∀ line ∈ label.textToSvg.writtenLines, first + line.drop ≤ label.placement.rect.maxY

/-- Every label is drawn inside of the rectangle that is reserved for it. -/
theorem labelText_inside [Metric K] [NumberText K] :
    (∀ (text colour : String) (anchor : Point K),
      (LabelShape.at text colour anchor).placement.rect = labelRect anchor (labelSize text) ∧
        TextInside (LabelShape.at text colour anchor) (firstBaseline anchor text)) ∧
      ∀ (p : EdgePaint K) (placed : PlacedRects K), ∀ label ∈ p.placeLabel? placed,
        ∃ anchor, label = .at label.text label.colour anchor := by
  refine ⟨fun text colour anchor => ⟨rfl, ?_⟩, EdgePaint.placeLabel?_at⟩
  obtain ⟨baseline, centred, fontSize⟩ := textToSvg_attributes text colour anchor
  have lines := writtenLines_textToSvg text colour anchor
  have first := firstBaseline_eq anchor text
  refine ⟨baseline, ?baselines, centred, fontSize, lines, ?middle, ?narrow, ?upper, ?lower⟩
  case baselines =>
    rw [lines, List.map_map]
    exact labelBaselines_eq anchor text
  case middle => exact labelRect_middle anchor (labelSize text)
  case narrow => exact fun line isLine => textWidth_lt_labelRect anchor isLine
  case upper =>
    rw [first]
    apply add_le_add_right
    split <;> norm_num
  case lower =>
    rw [lines, List.forall_mem_map]
    exact fun entry isLine => baseline_le_maxY anchor (List.snd_lt_of_mem_zipIdx isLine)

end Exact

attribute [local instance] cityMetric

/-- Both lines of a label are inside of its rectangle. -/
theorem twoLines_inside :
    TextInside (LabelShape.at "reads\nwrites" "#555" ⟨100, 50⟩) (38 : ℚ) ∧
      (LabelShape.at "reads\nwrites" "#555" (⟨100, 50⟩ : Point ℚ)).textToSvg.writtenLines =
        [⟨"reads", some "100", 0⟩, ⟨"writes", some "100", 14⟩] := by
  obtain ⟨-, inside⟩ := labelText_inside.1 "reads\nwrites" "#555" (⟨100, 50⟩ : Point ℚ)
  have first : firstBaseline (⟨100, 50⟩ : Point ℚ) "reads\nwrites" = 38 := by decide +kernel
  rw [first] at inside
  refine ⟨inside, inside.lines.trans ?_⟩
  decide +kernel

end BoxDiagram
