/-
Module: BoxDiagram.Proofs.LeafTexts
Purpose: The texts of a leaf.  The size that is estimated for a leaf covers the texts that are drawn for it, and the
  captions below a compact leaf stand one below another as long as the description is short.
Main exports: captionsBelow_eq, Caption.OnNode, fullLeafSize_ne_compactLeafSize, CompactTexts, FullTexts,
  leafTexts_covered, descending_captionsBelow_iff, compactShape_descending_iff, longDescription_captions
-/
import BoxDiagram.Proofs.DrawnBoxes
import BoxDiagram.Proofs.ExactArithmetic
import BoxDiagram.Proofs.TextRows

namespace BoxDiagram

/-! ### The parts of the captions -/

section Parts

variable {α : Type} [Scalar α]

/-- The technology, in brackets. -/
def technologyCaptions (width : α) (technology : Option String) : List (Caption α) :=
  technology.toList.map fun t =>
    Caption.centred (width / 2.0) (compactShapeHeight + 15.0) ("[" ++ t ++ "]") "10" italicGrey

/-- The lines of the description. -/
def descriptionCaptions (width : α) (technology description : Option String) : List (Caption α) :=
  (description.elim [] Text.lines).zipIdx.map fun entry =>
    Caption.centred (width / 2.0) (descriptionBaseline technology + Scalar.ofNat entry.2 * 13.0) entry.1 "10"
      [("fill", "#555")]

/-- The baseline of the reference to a more detailed diagram. -/
def zoomBaseline (technology description : Option String) : α :=
  descriptionBaseline technology + Scalar.ofNat (description.elim [] Text.lines).length * 12.0 +
    if description.isSome then 4.0 else 0.0

/-- The reference to a more detailed diagram. -/
def zoomCaptions (width : α) (technology description zoom : Option String) : List (Caption α) :=
  zoom.toList.map fun z =>
    Caption.centred (width / 2.0) (zoomBaseline technology description) ("→ " ++ z) "9" italicGrey

theorem captionsBelow_eq (width : α) (technology description zoom : Option String) :
    captionsBelow width technology description zoom =
      technologyCaptions width technology ++ descriptionCaptions width technology description ++
        zoomCaptions width technology description zoom := rfl

theorem nameCaption_contents (width : α) (paint : BoxPaint α) (name : String) :
    (nameCaption width paint name).map Caption.content = if name.isEmpty then [] else [name] := by
  rw [nameCaption]
  split <;> rfl

theorem technologyCaptions_contents (width : α) (technology : Option String) :
    (technologyCaptions width technology).map Caption.content = technology.toList.map fun name => "[" ++ name ++ "]" :=
  List.map_map ..

theorem descriptionCaptions_contents (width : α) (technology description : Option String) :
    (descriptionCaptions width technology description).map Caption.content = description.elim [] Text.lines :=
  (List.map_map ..).trans (List.zipIdx_map_fst 0 _)

theorem zoomCaptions_contents (width : α) (technology description zoom : Option String) :
    (zoomCaptions width technology description zoom).map Caption.content = zoom.toList.map ("→ " ++ ·) := List.map_map ..

/-- The lines of the label of a full leaf. -/
def labelCaptions (size : Size α) (paint : BoxPaint α) (label : String) : List (Caption α) :=
  let start := (size.height - Scalar.ofNat (Text.lines label).length * 18.0) / 2.0 + 14.0
  (Text.lines label).zipIdx.map fun entry =>
    Caption.centred (size.width / 2.0) (start + Scalar.ofNat entry.2 * 18.0) entry.1 (fullLineLook paint entry.2).1
      (fullLineLook paint entry.2).2

/-- The reference to a more detailed diagram in a full leaf. -/
def bottomCaptions (size : Size α) (zoom : Option String) : List (Caption α) :=
  zoom.toList.map fun z => Caption.centred (size.width / 2.0) (size.height - 8.0) ("→ " ++ z) "9" italicGrey

theorem fullCaptions_eq (size : Size α) (paint : BoxPaint α) (label : String) (zoom : Option String) :
    fullCaptions size paint label zoom = labelCaptions size paint label ++ bottomCaptions size zoom := rfl

theorem labelCaptions_contents (size : Size α) (paint : BoxPaint α) (label : String) :
    (labelCaptions size paint label).map Caption.content = Text.lines label :=
  (List.map_map ..).trans (List.zipIdx_map_fst 0 _)

theorem bottomCaptions_contents (size : Size α) (zoom : Option String) :
    (bottomCaptions size zoom).map Caption.content = zoom.toList.map ("→ " ++ ·) := List.map_map ..

/-! ### The two kinds of leaves -/

omit [Scalar α] in
@[simp] theorem Caption.fontSize_centred (x baseline : α) (text fontSize : String) (look : List (String × String)) :
    (Caption.centred x baseline text fontSize look).look.lookup "font-size" = some fontSize := rfl

/-- The captions of a compact leaf are smaller than the first line in a full leaf. -/
theorem compactCaptions_small (width : α) (paint : BoxPaint α) (b : Box) :
    ∀ c ∈ compactCaptions width paint b, c.look.lookup "font-size" ≠ some "14" := by
  have name : ∀ c ∈ nameCaption width paint b.name, c.look.lookup "font-size" ≠ some "14" := by
    rw [nameCaption]
    split <;> simp
  rw [compactCaptions, captionsBelow_eq]
  simp only [List.forall_mem_append, technologyCaptions, descriptionCaptions, zoomCaptions, List.forall_mem_map]
  exact ⟨name, ⟨fun _ _ => by simp, fun _ _ => by simp⟩, fun _ _ => by simp⟩

theorem fullShape_ne_compactShape (n m : PositionedNode α) (t : Tree Box) (paint : BoxPaint α) (origin : Point α) :
    fullShape n t.value paint origin ≠ compactShape m (some t) paint origin := by
  intro same
  have captions : fullCaptions n.size paint t.value.label t.value.zoom = compactCaptions m.width paint t.value :=
    congrArg BoxShape.captions same
  obtain ⟨line, rest, lines⟩ := List.exists_cons_of_ne_nil (Text.lines_ne_nil t.value.label)
  have large : ∃ c ∈ fullCaptions n.size paint t.value.label t.value.zoom, c.look.lookup "font-size" = some "14" := by
    rw [fullCaptions_eq, labelCaptions, lines]
    exact ⟨_, List.mem_cons_self, rfl⟩
  obtain ⟨c, isCaption, fontSize⟩ := large
  rw [captions] at isCaption
  exact compactCaptions_small m.width paint t.value c isCaption fontSize

theorem boxShape_full {n : Tree (PositionedNode α)} {t : Tree Box} (isLeaf : n.isCompound = false)
    (isFull : Box.isFull t = true) (paint : BoxPaint α) (origin : Point α) :
    boxShape n (some t) paint origin = (.node, fullShape n.value t.value paint origin) := by
  simp [boxShape, isLeaf, isFull]

theorem boxShape_compact {n : Tree (PositionedNode α)} {t : Tree Box} (isLeaf : n.isCompound = false)
    (isFull : Box.isFull t = false) (paint : BoxPaint α) (origin : Point α) :
    boxShape n (some t) paint origin = (.node, compactShape n.value (some t) paint origin) := by
  simp [boxShape, isLeaf, isFull]

end Parts

open scoped ExactNumbers

-- The operations of a field are found as its own, and not again through the interface.
attribute [-instance] Scalar.toAdd Scalar.toSub Scalar.toMul Scalar.toDiv Scalar.toNeg Scalar.toLT Scalar.toLE
  Scalar.toOfScientific

section Exact

variable {K : Type} [Field K] [LinearOrder K] [IsStrictOrderedRing K]

/-! ### Estimated sizes -/

@[simp] theorem compactShapeHeight_eq : (compactShapeHeight : K) = 50 := by norm_num [compactShapeHeight]

theorem fullLeafSize_width (label : String) :
    (fullLeafSize label : Size K).width = ((max (9 * Text.longest (Text.lines label) + 50) 160 : ℕ) : K) := by
  norm_num [fullLeafSize, ExactNumbers.larger_eq_max, mul_comm]

theorem fullLeafSize_height (label : String) :
    (fullLeafSize label : Size K).height = ((20 * (Text.lines label).length + 40 : ℕ) : K) := by
  norm_num [fullLeafSize]
  ring

theorem compactLeafSize_width (name technology description : Option String) :
    (compactLeafSize name technology description : Size K).width =
      ((max (8 * compactLeafColumns name technology description + 40) 150 : ℕ) : K) := by
  norm_num [compactLeafSize, ExactNumbers.larger_eq_max, mul_comm]

theorem compactLeafSize_height (name technology description : Option String) :
    (compactLeafSize name technology description : Size K).height =
      ((50 + (if technology.isSome then 18 else 0) +
        description.elim 0 (fun d => 15 * (Text.lines d).length + 4) : ℕ) : K) := by
  cases technology <;> cases description <;> norm_num [compactLeafSize] <;> ring

/-- The two kinds of leaves are told apart by their heights: no height of a compact leaf is 20 for some lines and 40. -/
theorem fullLeafSize_ne_compactLeafSize (label : String) (name technology description : Option String) :
    (fullLeafSize label : Size K) ≠ compactLeafSize name technology description := by
  intro same
  have heights := congrArg Size.height same
  rw [fullLeafSize_height, compactLeafSize_height, Nat.cast_inj] at heights
  cases description <;> simp only [Option.elim_none, Option.elim_some] at heights <;> split at heights <;> omega

theorem textWidth_le_fullLeafSize {label line : String} (isLine : line ∈ Text.lines label) :
    textWidth 9 line ≤ (fullLeafSize label : Size K).width := by
  have longest : line.length ≤ Text.longest (Text.lines label) := Text.length_le_longest isLine
  have width : line.length * 9 ≤ max (9 * Text.longest (Text.lines label) + 50) 160 := by omega
  rw [fullLeafSize_width, textWidth]
  exact_mod_cast width

theorem textWidth_le_compactLeafSize {text : String} {name technology description : Option String}
    (counted : text.length ≤ compactLeafColumns name technology description) :
    textWidth 8 text ≤ (compactLeafSize name technology description : Size K).width := by
  have width : text.length * 8 ≤ max (8 * compactLeafColumns name technology description + 40) 150 := by omega
  rw [compactLeafSize_width, textWidth]
  exact_mod_cast width

/-! ### Baselines -/

theorem descriptionBaseline_eq (technology : Option String) :
    (descriptionBaseline technology : K) = if technology.isSome then 79 else 65 := by
  cases technology <;> norm_num [descriptionBaseline]

theorem zoomBaseline_eq (technology description : Option String) :
    (zoomBaseline technology description : K) =
      descriptionBaseline technology + 12 * (description.elim [] Text.lines).length +
        if description.isSome then 4 else 0 := by
  rw [zoomBaseline, ExactNumbers.ofNat_eq]
  split <;> norm_num [mul_comm]

theorem le_descriptionBaseline (technology : Option String) : (65 : K) ≤ descriptionBaseline technology := by
  rw [descriptionBaseline_eq]
  split <;> norm_num

theorem descriptionBaseline_le_zoomBaseline (technology description : Option String) :
    (descriptionBaseline technology : K) ≤ zoomBaseline technology description := by
  have lines : (0 : K) ≤ (description.elim [] Text.lines).length := Nat.cast_nonneg _
  have gap : (0 : K) ≤ if description.isSome then 4 else 0 := by split <;> norm_num
  rw [zoomBaseline_eq]
  linarith

/-- Below the technology the description begins farther down. -/
theorem of_mem_technologyCaptions {width : K} {technology : Option String} {c : Caption K}
    (mem : c ∈ technologyCaptions width technology) : c.baseline = 65 ∧ (descriptionBaseline technology : K) = 79 := by
  obtain ⟨t, isSome, rfl⟩ := List.mem_map.mp mem
  rw [Option.mem_toList.mp isSome, descriptionBaseline_eq]
  norm_num [Caption.centred]

omit [IsStrictOrderedRing K] in
theorem mem_descriptionCaptions {width : K} {technology description : Option String} {c : Caption K} :
    c ∈ descriptionCaptions width technology description ↔
      ∃ (line : String) (i : ℕ), (description.elim [] Text.lines)[i]? = some line ∧
        Caption.centred (width / 2.0) (descriptionBaseline technology + i * 13.0) line "10" [("fill", "#555")] = c := by
  simp [descriptionCaptions, List.mem_zipIdx_iff_getElem?]

omit [IsStrictOrderedRing K] in
theorem mem_labelCaptions {size : Size K} {paint : BoxPaint K} {label : String} {c : Caption K} :
    c ∈ labelCaptions size paint label ↔
      ∃ (line : String) (i : ℕ), (Text.lines label)[i]? = some line ∧
        Caption.centred (size.width / 2.0)
          ((size.height - (Text.lines label).length * 18.0) / 2.0 + 14.0 + i * 18.0) line (fullLineLook paint i).1
            (fullLineLook paint i).2 = c := by
  simp [labelCaptions, List.mem_zipIdx_iff_getElem?]

/-- A caption that is centred on a node of this size and covered by it. -/
structure Caption.OnNode (perCharacter : K) (size : Size K) (c : Caption K) : Prop where
  anchored : c.look.lookup "text-anchor" = some "middle"
  centred : c.x = size.width / 2
  narrow : textWidth perCharacter c.content ≤ size.width
  below : 0 < c.baseline
  within : c.baseline ≤ size.height

theorem Caption.onNode_centred {perCharacter baseline : K} {size : Size K} {text : String} (fontSize : String)
    (look : List (String × String)) (narrow : textWidth perCharacter text ≤ size.width) (below : 0 < baseline)
    (within : baseline ≤ size.height) :
    (Caption.centred (size.width / 2.0) baseline text fontSize look).OnNode perCharacter size :=
  ⟨rfl, by norm_num [Caption.centred], narrow, below, within⟩

/-! ### Texts of a compact leaf -/

section Compact

variable {name technology description : Option String} {size : Size K}

theorem nameCaption_onNode (sized : size = compactLeafSize name technology description) (paint : BoxPaint K)
    {text : String} (isName : text.isEmpty = false → name = some text) :
    ∀ c ∈ nameCaption size.width paint text, c.OnNode 8 size := by
  rw [nameCaption]
  split
  · simp
  · case isFalse notEmpty =>
    rw [List.forall_mem_singleton]
    obtain rfl := isName (by simpa using notEmpty)
    have baseline : (compactShapeHeight / 2.0 + 5.0 : K) = (30 : ℕ) := by norm_num
    apply Caption.onNode_centred
    case narrow =>
      rw [sized]
      exact textWidth_le_compactLeafSize ((le_max_left _ _).trans (le_max_left _ _))
    case below => norm_num
    case within =>
      rw [sized, compactLeafSize_height, baseline, Nat.cast_le]
      omega

theorem technologyCaptions_onNode (sized : size = compactLeafSize name technology description) :
    ∀ c ∈ technologyCaptions size.width technology, c.OnNode 8 size := by
  cases technology with
  | none => simp [technologyCaptions]
  | some t =>
      rw [technologyCaptions, List.forall_mem_map, Option.toList_some, List.forall_mem_singleton]
      have baseline : (compactShapeHeight + 15.0 : K) = (65 : ℕ) := by norm_num
      have brackets : ("[" ++ t ++ "]").length = t.length + 2 := by
        have opening : "[".length = 1 := by decide
        have closing : "]".length = 1 := by decide
        rw [String.length_append, String.length_append, opening, closing]
        omega
      apply Caption.onNode_centred
      case narrow =>
        rw [sized]
        apply textWidth_le_compactLeafSize
        rw [brackets]
        exact (le_max_right _ _).trans (le_max_left _ _)
      case below => norm_num
      case within =>
        rw [sized, compactLeafSize_height, baseline, Nat.cast_le, Option.isSome_some, if_pos rfl]
        omega

theorem descriptionCaptions_onNode (sized : size = compactLeafSize name technology description) :
    ∀ c ∈ descriptionCaptions size.width technology description, c.OnNode 8 size := by
  intro c mem
  obtain ⟨line, i, found, rfl⟩ := mem_descriptionCaptions.mp mem
  cases description with
  | none => simp at found
  | some text =>
      obtain ⟨inside, rfl⟩ := List.getElem?_eq_some_iff.mp found
      rw [Option.elim_some] at inside
      have baseline : (descriptionBaseline technology + i * 13.0 : K) =
          ((65 + (if technology.isSome then 14 else 0) + i * 13 : ℕ) : K) := by
        cases technology <;> norm_num [descriptionBaseline_eq]
      apply Caption.onNode_centred
      case narrow =>
        rw [sized]
        apply textWidth_le_compactLeafSize
        exact (Text.length_le_longest (List.getElem_mem inside)).trans (le_max_right _ _)
      case below =>
        rw [baseline, Nat.cast_pos]
        omega
      case within =>
        rw [sized, compactLeafSize_height, baseline, Nat.cast_le, Option.elim_some]
        split <;> omega

end Compact

/-! ### Texts of a full leaf -/

section Full

variable {label : String} {size : Size K}

/-- The lines are 18 apart and get a height of 20 each, so the first one is farther down by 1 for every line. -/
theorem labelCaptions_baseline (sized : size = fullLeafSize label) (i : ℕ) :
    (size.height - (Text.lines label).length * 18.0) / 2.0 + 14.0 + i * 18.0 =
      (((Text.lines label).length + 34 + 18 * i : ℕ) : K) := by
  rw [sized, fullLeafSize_height]
  norm_num
  ring

theorem labelCaptions_onNode (sized : size = fullLeafSize label) (paint : BoxPaint K) :
    ∀ c ∈ labelCaptions size paint label, c.OnNode 9 size := by
  intro c mem
  obtain ⟨line, i, found, rfl⟩ := mem_labelCaptions.mp mem
  obtain ⟨inside, rfl⟩ := List.getElem?_eq_some_iff.mp found
  rw [labelCaptions_baseline sized]
  apply Caption.onNode_centred
  case narrow =>
    rw [sized]
    exact textWidth_le_fullLeafSize (List.getElem_mem inside)
  case below =>
    rw [Nat.cast_pos]
    omega
  case within =>
    rw [sized, fullLeafSize_height, Nat.cast_le]
    omega

theorem labelCaptions_descending (paint : BoxPaint K) : Descending (labelCaptions size paint label) := by
  apply pairwise_map_zipIdx
  intro line next i j before
  norm_num [Caption.centred]
  exact before

/-- The reference at the bottom is below all lines, and inside of the leaf. -/
theorem bottomCaptions_below (sized : size = fullLeafSize label) (paint : BoxPaint K) (zoom : Option String) :
    ∀ c ∈ bottomCaptions size zoom, (∀ line ∈ labelCaptions size paint label, line.baseline < c.baseline) ∧
      0 < c.baseline ∧ c.baseline < size.height := by
  intro c mem
  obtain ⟨z, -, rfl⟩ := List.mem_map.mp mem
  have baseline : size.height - 8.0 = ((20 * (Text.lines label).length + 32 : ℕ) : K) := by
    rw [sized, fullLeafSize_height]
    norm_num
    ring
  simp only [Caption.centred, baseline]
  refine ⟨fun line isLine => ?_, ?_, ?_⟩
  · obtain ⟨text, i, found, rfl⟩ := mem_labelCaptions.mp isLine
    obtain ⟨inside, rfl⟩ := List.getElem?_eq_some_iff.mp found
    rw [labelCaptions_baseline sized, Caption.centred, Nat.cast_lt]
    omega
  · rw [Nat.cast_pos]
    omega
  · rw [sized, fullLeafSize_height, Nat.cast_lt]
    omega

end Full

/-! ### The size covers the texts -/

/-- The captions of a compact leaf: the texts that its size is estimated for, and the reference. -/
structure CompactTexts (b : Box) (size : Size K) (texts reference : List (Caption K)) : Prop where
  contents : texts.map Caption.content =
    (if b.name.isEmpty then [] else [b.name]) ++ b.technology.toList.map (fun name => "[" ++ name ++ "]") ++
      b.description.elim [] Text.lines
  covered : ∀ c ∈ texts, c.OnNode 8 size
  zoom : reference.map Caption.content = b.zoom.toList.map ("→ " ++ ·)

/-- The captions of a full leaf: the lines of its label, and the reference below them. -/
structure FullTexts (b : Box) (size : Size K) (lines reference : List (Caption K)) : Prop where
  contents : lines.map Caption.content = Text.lines b.label
  covered : ∀ c ∈ lines, c.OnNode 9 size
  descending : Descending lines
  zoom : reference.map Caption.content = b.zoom.toList.map ("→ " ++ ·)
  below : ∀ c ∈ reference, (∀ line ∈ lines, line.baseline < c.baseline) ∧ 0 < c.baseline ∧ c.baseline < size.height

/-- The size for which the texts of a compact leaf are measured. -/
def compactSize (b : Box) : Size K :=
  compactLeafSize (if b.name.isEmpty then none else some b.name) b.technology b.description

omit [IsStrictOrderedRing K] in
theorem leafSize_full {t : Tree Box} (isFull : Box.isFull t = true) :
    (leafSize t : Size K) = fullLeafSize t.value.label := by
  simp [leafSize, isFull]

omit [IsStrictOrderedRing K] in
theorem leafSize_compact {t : Tree Box} (isFull : Box.isFull t = false) : (leafSize t : Size K) = compactSize t.value := by
  simp [leafSize, compactSize, isFull]

theorem compactCaptions_texts {b : Box} {size : Size K} (sized : size = compactSize b) (paint : BoxPaint K) :
    ∃ texts reference, compactCaptions size.width paint b = texts ++ reference ∧ CompactTexts b size texts reference := by
  refine ⟨nameCaption size.width paint b.name ++ technologyCaptions size.width b.technology ++
    descriptionCaptions size.width b.technology b.description, zoomCaptions size.width b.technology b.description b.zoom,
    ?_, ?_, ?_, zoomCaptions_contents ..⟩
  · rw [compactCaptions, captionsBelow_eq]
    simp only [List.append_assoc]
  · rw [List.map_append, List.map_append, nameCaption_contents, technologyCaptions_contents, descriptionCaptions_contents]
  · have name : ∀ c ∈ nameCaption size.width paint b.name, c.OnNode 8 size :=
      nameCaption_onNode sized paint fun notEmpty => by simp [notEmpty]
    simp only [List.forall_mem_append]
    exact ⟨⟨name, technologyCaptions_onNode sized⟩, descriptionCaptions_onNode sized⟩

theorem fullCaptions_texts {b : Box} {size : Size K} (sized : size = fullLeafSize b.label) (paint : BoxPaint K) :
    ∃ lines reference, fullCaptions size paint b.label b.zoom = lines ++ reference ∧ FullTexts b size lines reference :=
  ⟨labelCaptions size paint b.label, bottomCaptions size b.zoom, fullCaptions_eq .., {
    contents := labelCaptions_contents ..
    covered := labelCaptions_onNode sized paint
    descending := labelCaptions_descending paint
    zoom := bottomCaptions_contents ..
    below := bottomCaptions_below sized paint b.zoom }⟩

/-- A leaf of the estimated size covers the texts that are drawn for it.  It is drawn in full exactly if it is sized for
it. -/
theorem leafTexts_covered [NumberText K] {n : Tree (PositionedNode K)} {t : Tree Box} (isLeaf : n.isCompound = false)
    (sized : n.value.size = leafSize t) (paint : BoxPaint K) (origin : Point K) :
    ∃ shape, boxShape n (some t) paint origin = (.node, shape) ∧
      shape.toSvg.named "text" = shape.captions.map Caption.toSvg ∧
      (shape = fullShape n.value t.value paint origin ∨ shape = compactShape n.value (some t) paint origin) ∧
      (shape = fullShape n.value t.value paint origin ↔ (leafSize t : Size K) = fullLeafSize t.value.label) ∧
      (shape = compactShape n.value (some t) paint origin ↔ (leafSize t : Size K) = compactSize t.value) ∧
      (shape = fullShape n.value t.value paint origin → ∃ lines reference, shape.captions = lines ++ reference ∧
        FullTexts t.value n.value.size lines reference) ∧
      (shape = compactShape n.value (some t) paint origin → ∃ texts reference, shape.captions = texts ++ reference ∧
        CompactTexts t.value n.value.size texts reference) := by
  have shapes : fullShape n.value t.value paint origin ≠ compactShape n.value (some t) paint origin :=
    fullShape_ne_compactShape _ _ t paint origin
  have sizes : (fullLeafSize t.value.label : Size K) ≠ compactSize t.value :=
    fullLeafSize_ne_compactLeafSize _ _ _ _
  cases isFull : Box.isFull t with
  | true =>
      have full : (leafSize t : Size K) = fullLeafSize t.value.label := leafSize_full isFull
      refine ⟨_, boxShape_full isLeaf isFull paint origin, BoxShape.named_text _, .inl rfl, iff_of_true rfl full, ?_,
        fun _ => fullCaptions_texts (sized.trans full) paint, fun same => absurd same shapes⟩
      rw [full]
      exact iff_of_false shapes sizes
  | false =>
      have compact : (leafSize t : Size K) = compactSize t.value := leafSize_compact isFull
      refine ⟨_, boxShape_compact isLeaf isFull paint origin, BoxShape.named_text _, .inr rfl, ?_, iff_of_true rfl compact,
        fun same => absurd same.symm shapes, fun _ => compactCaptions_texts (sized.trans compact) paint⟩
      rw [compact]
      exact iff_of_false shapes.symm sizes.symm

end Exact

/-- A leaf with a label of two lines and a reference. -/
def labelledStore : Tree Box :=
  .node { (default : Box) with name := "Store", label? := some "Store\nkeeps files", zoom := some "Detail" } []

def labelledNode : Tree (PositionedNode ℚ) := .node ⟨"Store", 0, 0, 160, 80, ["Store\nkeeps files"], []⟩ []

/-- The leaf is drawn in full, and the node covers both lines. -/
theorem labelledStore_covered :
    labelledNode.isCompound = false ∧ labelledNode.value.size = leafSize labelledStore ∧
      ∃ shape, boxShape labelledNode (some labelledStore) ⟨"white", "black", 1⟩ ⟨0, 0⟩ = (.node, shape) ∧
        ∃ lines reference, shape.captions = lines ++ reference ∧
          FullTexts labelledStore.value labelledNode.value.size lines reference := by
  have isLeaf : labelledNode.isCompound = false := rfl
  have sized : labelledNode.value.size = leafSize labelledStore := by decide +kernel
  have full : (leafSize labelledStore : Size ℚ) = fullLeafSize labelledStore.value.label := by decide +kernel
  obtain ⟨shape, drawn, -, -, isFull, -, texts, -⟩ := leafTexts_covered isLeaf sized ⟨"white", "black", 1⟩ ⟨0, 0⟩
  exact ⟨isLeaf, sized, shape, drawn, texts (isFull.mpr full)⟩

section Exact

variable {K : Type} [Field K] [LinearOrder K] [IsStrictOrderedRing K]

/-! ### The order of the captions below a compact leaf -/

section Below

variable (width : K) (technology description : Option String)

/-- Technology and description stand one below another, whatever the number of lines. -/
theorem descending_textsBelow :
    Descending (technologyCaptions width technology ++ descriptionCaptions width technology description) := by
  rw [Descending, List.pairwise_append]
  refine ⟨?_, pairwise_map_zipIdx fun line next i j before => ?_, ?_⟩
  · cases technology <;> simp [technologyCaptions]
  · norm_num [Caption.centred]
    exact before
  · intro upper isTechnology lower isLine
    obtain ⟨baseline, below⟩ := of_mem_technologyCaptions isTechnology
    obtain ⟨line, i, -, rfl⟩ := mem_descriptionCaptions.mp isLine
    have positive : (0 : K) ≤ i := Nat.cast_nonneg i
    norm_num [Caption.centred, baseline, below]
    linarith

/-- The reference moves down by 12 for every line, and the lines are 13 apart.  So the 17th line gets down to the
baseline of the reference. -/
theorem zoomBaseline_below_iff :
    (∀ c ∈ technologyCaptions width technology ++ descriptionCaptions width technology description,
        c.baseline < zoomBaseline technology description) ↔
      (description.elim [] Text.lines).length ≤ 16 := by
  rw [List.forall_mem_append]
  constructor
  · rintro ⟨-, below⟩
    simp only [zoomBaseline_eq] at below
    cases description with
    | none => simp
    | some text =>
        obtain ⟨last, count⟩ := Nat.exists_eq_succ_of_ne_zero
          (List.length_eq_zero_iff.not.mpr (Text.lines_ne_nil text))
        obtain ⟨line, isLast⟩ : ∃ line, (Text.lines text)[last]? = some line := ⟨_, List.getElem?_eq_getElem (by omega)⟩
        have lower := below _ (mem_descriptionCaptions.mpr ⟨line, last, isLast, rfl⟩)
        rw [Option.elim_some, count] at lower ⊢
        norm_num [Caption.centred] at lower
        have few : (last : K) < 16 := by linarith
        exact_mod_cast few
  · intro short
    constructor
    · intro c isTechnology
      obtain ⟨baseline, below⟩ := of_mem_technologyCaptions isTechnology
      linarith [descriptionBaseline_le_zoomBaseline (K := K) technology description]
    · intro c isLine
      rw [zoomBaseline_eq]
      obtain ⟨line, i, found, rfl⟩ := mem_descriptionCaptions.mp isLine
      obtain ⟨inside, -⟩ := List.getElem?_eq_some_iff.mp found
      cases description with
      | none => simp at found
      | some text =>
          rw [Option.elim_some] at inside short ⊢
          have before : (i : K) + 1 ≤ (Text.lines text).length := by exact_mod_cast inside
          have few : (i : K) ≤ 15 := by exact_mod_cast (by omega : i ≤ 15)
          norm_num [Caption.centred]
          linarith

theorem descending_captionsBelow_iff (zoom : Option String) :
    Descending (captionsBelow width technology description zoom) ↔
      zoom = none ∨ (description.elim [] Text.lines).length ≤ 16 := by
  have upper := descending_textsBelow width technology description
  rw [captionsBelow_eq]
  cases zoom with
  | none => simpa [zoomCaptions] using upper
  | some z =>
      rw [← zoomBaseline_below_iff width technology description, Descending, List.pairwise_append]
      simp only [zoomCaptions, Option.toList_some, List.map_singleton, List.pairwise_singleton, List.forall_mem_singleton,
        true_and, reduceCtorEq, false_or]
      exact and_iff_right upper

theorem compactShapeHeight_lt_of_mem_captionsBelow (zoom : Option String) :
    ∀ c ∈ captionsBelow width technology description zoom, compactShapeHeight < c.baseline := by
  have first := le_descriptionBaseline (K := K) technology
  rw [captionsBelow_eq, compactShapeHeight_eq]
  simp only [List.forall_mem_append]
  refine ⟨⟨fun c isTechnology => ?_, fun c isLine => ?_⟩, fun c isZoom => ?_⟩
  · linarith [(of_mem_technologyCaptions isTechnology).1]
  · obtain ⟨line, i, -, rfl⟩ := mem_descriptionCaptions.mp isLine
    have positive : (0 : K) ≤ i := Nat.cast_nonneg i
    norm_num [Caption.centred]
    linarith
  · obtain ⟨_, -, rfl⟩ := List.mem_map.mp isZoom
    simp only [Caption.centred]
    linarith [descriptionBaseline_le_zoomBaseline (K := K) technology description]

end Below

/-- Below the shape of a compact leaf there are the technology, the lines of the description and the reference.  They
stand one below another in this order exactly if there is no reference or the description has at most 16 lines. -/
theorem compactShape_descending_iff (n : PositionedNode K) (t : Tree Box) (paint : BoxPaint K) (origin : Point K) :
    ∃ texts reference, (compactShape n (some t) paint origin).captions =
        nameCaption n.width paint t.value.name ++ (texts ++ reference) ∧
      texts.map Caption.content = t.value.technology.toList.map (fun name => "[" ++ name ++ "]") ++
        t.value.description.elim [] Text.lines ∧
      reference.map Caption.content = t.value.zoom.toList.map ("→ " ++ ·) ∧
      (∀ c ∈ texts ++ reference, compactShapeHeight < c.baseline) ∧ Descending texts ∧
      (Descending (texts ++ reference) ↔
        t.value.zoom = none ∨ (t.value.description.elim [] Text.lines).length ≤ 16) := by
  refine ⟨technologyCaptions n.width t.value.technology ++
    descriptionCaptions n.width t.value.technology t.value.description,
    zoomCaptions n.width t.value.technology t.value.description t.value.zoom, rfl, ?_, zoomCaptions_contents ..,
    compactShapeHeight_lt_of_mem_captionsBelow _ _ _ _, descending_textsBelow .., descending_captionsBelow_iff ..⟩
  rw [List.map_append, technologyCaptions_contents, descriptionCaptions_contents]

end Exact

/-- A leaf with captions of all three kinds. -/
def describedStore : Tree Box :=
  .node
    { (default : Box) with
      name := "Store", technology := some "Disk", description := some "keeps files\nand logs", zoom := some "Detail" } []

/-- The captions of this leaf stand one below another. -/
theorem describedStore_descending :
    ∃ texts reference, (compactShape (⟨"Store", 0, 0, 150, 102, ["Store"], []⟩ : PositionedNode ℚ) (some describedStore)
        ⟨"white", "black", 1⟩ ⟨0, 0⟩).captions =
          nameCaption 150 ⟨"white", "black", 1⟩ "Store" ++ (texts ++ reference) ∧
      (texts ++ reference).map Caption.content = ["[Disk]", "keeps files", "and logs", "→ Detail"] ∧
      Descending (texts ++ reference) := by
  obtain ⟨texts, reference, captions, contents, zoom, -, -, descending⟩ := compactShape_descending_iff
    (⟨"Store", 0, 0, 150, 102, ["Store"], []⟩ : PositionedNode ℚ) describedStore ⟨"white", "black", 1⟩ ⟨0, 0⟩
  refine ⟨texts, reference, captions, ?_, descending.mpr (.inr (by decide +kernel))⟩
  rw [List.map_append, contents, zoom]
  decide +kernel

/-- A leaf with a description of 17 lines and a reference. -/
def seventeenLines : Tree Box :=
  .node
    { (default : Box) with
      name := "A"
      description := some "1\n2\n3\n4\n5\n6\n7\n8\n9\n10\n11\n12\n13\n14\n15\n16\n17"
      zoom := some "Detail" } []

/-- A node of the size that is estimated for the leaf. -/
def tallNode : PositionedNode ℚ := ⟨"A", 0, 0, 150, 309, ["A"], []⟩

/-- The last line of the description and the reference are written over one another. -/
theorem seventeenLines_overwritten :
    tallNode.size = leafSize seventeenLines ∧
      boxShape (.node tallNode []) (some seventeenLines) ⟨"white", "black", 1⟩ ⟨0, 0⟩ =
        (.node, compactShape tallNode (some seventeenLines) ⟨"white", "black", 1⟩ ⟨0, 0⟩) ∧
      (((compactShape tallNode (some seventeenLines) ⟨"white", "black", 1⟩ ⟨0, 0⟩).captions.drop 17).map
        fun c => (c.content, c.baseline)) = [("17", 273), ("→ Detail", 273)] ∧
      ¬ Descending ((compactShape tallNode (some seventeenLines) ⟨"white", "black", 1⟩ ⟨0, 0⟩).captions.drop 1) := by
  have compact : Box.isFull seventeenLines = false := by decide +kernel
  refine ⟨by decide +kernel, boxShape_compact rfl compact _ _, by decide +kernel, ?_⟩
  rw [Descending]
  decide +kernel

end BoxDiagram
