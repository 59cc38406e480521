/-
Module: BoxDiagram.Proofs.GrowingTexts
Purpose: Sizes that are estimated from texts grow with the texts, for leaves of both kinds and for the labels of edges.
  A leaf has a least size whatever its texts are, so it does not matter that a missing name is taken for a longer one than
  a short name is.
Main exports: Size.AtMost, LeafText.Grows, LabelGrows, compactLeafColumns_le, leafSize_least, estimatedSizes_grow
-/
import BoxDiagram.Proofs.LeafTexts

namespace BoxDiagram

/-! ### Texts that grow -/

/-- The texts for which a compact leaf is sized. -/
structure LeafText where
  name : Option String
  technology : Option String
  description : Option String

/-- The number of characters for which a name counts, where there is one or not. -/
def nameColumns (name : Option String) : ℕ := name.elim 10 String.length

/-- Texts of a leaf that are no shorter than others: what the others have is there as well, and at least as long.  Any name
will do where there was none. -/
structure LeafText.Grows (a b : LeafText) : Prop where
  name : a.name = none ∨ nameColumns a.name ≤ nameColumns b.name
  technology : ∀ t ∈ a.technology, ∃ u ∈ b.technology, t.length ≤ u.length
  description : ∀ d ∈ a.description, ∃ e ∈ b.description,
    (Text.lines d).length ≤ (Text.lines e).length ∧ ∀ l ∈ Text.lines d, ∃ m ∈ Text.lines e, l.length ≤ m.length

/-- A label with no fewer lines than another one, and with a longest line that is no shorter. -/
structure LabelGrows (a b : String) : Prop where
  lines : (Text.lines a).length ≤ (Text.lines b).length
  longest : Text.longest (Text.lines a) ≤ Text.longest (Text.lines b)

/-- Lines are no longer than others if each of them is matched by one of the others. -/
theorem Text.longest_mono {xs ys : List String} (matched : ∀ l ∈ xs, ∃ m ∈ ys, l.length ≤ m.length) :
    longest xs ≤ longest ys := by
  rw [longest_le_iff]
  intro l isLine
  obtain ⟨m, isMatch, longer⟩ := matched l isLine
  exact longer.trans (length_le_longest isMatch)

namespace LeafText

variable {a b : LeafText}

/-- The number of characters for which a leaf is sized. -/
def columns (a : LeafText) : ℕ := compactLeafColumns a.name a.technology a.description

theorem columns_eq (a : LeafText) : a.columns =
    max (max (nameColumns a.name) (a.technology.elim 0 fun t => t.length + 2))
      (a.description.elim 0 fun d => Text.longest (Text.lines d)) := rfl

/-- Only a missing name may count for more than the one that replaces it, and it counts for 10. -/
theorem Grows.columns (grows : a.Grows b) : a.columns ≤ max 10 b.columns := by
  have name : nameColumns a.name ≤ max 10 (nameColumns b.name) := by
    rcases grows.name with missing | longer
    · simp [missing, nameColumns]
    · exact le_max_of_le_right longer
  have technology : (a.technology.elim 0 fun t => t.length + 2) ≤ b.technology.elim 0 fun t => t.length + 2 := by
    cases isSome : a.technology with
    | none => exact Nat.zero_le _
    | some t =>
        obtain ⟨u, isSome', longer⟩ := grows.technology t isSome
        simpa [Option.mem_def.mp isSome'] using longer
  have description : (a.description.elim 0 fun d => Text.longest (Text.lines d)) ≤
      b.description.elim 0 fun d => Text.longest (Text.lines d) := by
    cases isSome : a.description with
    | none => exact Nat.zero_le _
    | some d =>
        obtain ⟨e, isSome', -, matched⟩ := grows.description d isSome
        simpa [Option.mem_def.mp isSome'] using Text.longest_mono matched
  rw [columns_eq, columns_eq]
  omega

end LeafText

/-! ### Sizes that grow -/

open scoped ExactNumbers

-- The operations of a field are found as its own, and not again through the interface.
attribute [-instance] Scalar.toAdd Scalar.toSub Scalar.toMul Scalar.toDiv Scalar.toNeg Scalar.toLT Scalar.toLE
  Scalar.toOfScientific

section Exact

variable {K : Type} [Field K] [LinearOrder K]

/-- A size is at most another one, in both directions. -/
structure Size.AtMost (s t : Size K) : Prop where
  width : s.width ≤ t.width
  height : s.height ≤ t.height

variable [IsStrictOrderedRing K]

theorem labelSize_eq (text : String) :
    (labelSize text : Size K) =
      ⟨((7 * Text.longest (Text.lines text) + 16 : ℕ) : K), ((14 * (Text.lines text).length + 8 : ℕ) : K)⟩ := by
  norm_num [labelSize, mul_comm]

/-- A name of less than 10 characters is as wide as none at all, as the leaf is no narrower than this in any case. -/
theorem LeafText.Grows.size {a b : LeafText} (grows : a.Grows b) :
    (compactLeafSize a.name a.technology a.description : Size K).AtMost
      (compactLeafSize b.name b.technology b.description) where
  width := by
    have columns : compactLeafColumns a.name a.technology a.description ≤
      max 10 (compactLeafColumns b.name b.technology b.description) := grows.columns
    rw [compactLeafSize_width, compactLeafSize_width, Nat.cast_le]
    omega
  height := by
    have technology : (if a.technology.isSome then 18 else 0) ≤ if b.technology.isSome then 18 else 0 := by
      cases isSome : a.technology with
      | none => exact Nat.zero_le _
      | some t =>
          obtain ⟨u, isSome', -⟩ := grows.technology t isSome
          simp [Option.mem_def.mp isSome']
    have description : (a.description.elim 0 fun d => 15 * (Text.lines d).length + 4) ≤
        b.description.elim 0 fun d => 15 * (Text.lines d).length + 4 := by
      cases isSome : a.description with
      | none => exact Nat.zero_le _
      | some d =>
          obtain ⟨e, isSome', lines, -⟩ := grows.description d isSome
          simpa [Option.mem_def.mp isSome'] using lines
    rw [compactLeafSize_height, compactLeafSize_height, Nat.cast_le]
    omega

theorem LabelGrows.fullLeafSize {a b : String} (grows : LabelGrows a b) :
    (fullLeafSize a : Size K).AtMost (fullLeafSize b) where
  width := by
    have longest := grows.longest
    rw [fullLeafSize_width, fullLeafSize_width, Nat.cast_le]
    omega
  height := by
    have lines := grows.lines
    rw [fullLeafSize_height, fullLeafSize_height, Nat.cast_le]
    omega

theorem LabelGrows.labelSize {a b : String} (grows : LabelGrows a b) :
    (labelSize a : Size K).AtMost (labelSize b) := by
  have longest := grows.longest
  have lines := grows.lines
  rw [labelSize_eq, labelSize_eq]
  constructor <;> rw [Nat.cast_le] <;> omega

theorem fullLeafSize_height_lt_iff {a b : String} :
    (fullLeafSize a : Size K).height < (fullLeafSize b).height ↔ (Text.lines a).length < (Text.lines b).length := by
  rw [fullLeafSize_height, fullLeafSize_height, Nat.cast_lt]
  omega

theorem compactLeafSize_least (name technology description : Option String) :
    (⟨150, 50⟩ : Size K).AtMost (compactLeafSize name technology description) where
  width := by
    have least : 150 ≤ max (8 * compactLeafColumns name technology description + 40) 150 := le_max_right _ _
    rw [compactLeafSize_width]
    exact Nat.ofNat_le_cast.mpr least
  height := by
    rw [compactLeafSize_height]
    exact Nat.ofNat_le_cast.mpr (by omega)

theorem fullLeafSize_least (label : String) : (⟨160, 60⟩ : Size K).AtMost (fullLeafSize label) where
  width := by
    have least : 160 ≤ max (9 * Text.longest (Text.lines label) + 50) 160 := le_max_right _ _
    rw [fullLeafSize_width]
    exact Nat.ofNat_le_cast.mpr least
  height := by
    have some : 0 < (Text.lines label).length := List.length_pos_iff.mpr (Text.lines_ne_nil label)
    rw [fullLeafSize_height]
    exact Nat.ofNat_le_cast.mpr (by omega)

/-- No leaf is smaller than a compact one with a short name and nothing below it. -/
theorem leafSize_least (t : Tree Box) : (⟨150, 50⟩ : Size K).AtMost (leafSize t) := by
  rw [leafSize]
  split
  · have least := fullLeafSize_least (K := K) t.value.label
    exact ⟨le_trans (by norm_num) least.width, le_trans (by norm_num) least.height⟩
  · exact compactLeafSize_least _ _ _

/-! ### Main result -/

/-- The estimated sizes grow with the texts, and none is less than the least size of its kind.  The height of a leaf with
its label inside tells the number of lines. -/
theorem estimatedSizes_grow (K : Type) [Field K] [LinearOrder K] [IsStrictOrderedRing K] :
    (∀ a b : LeafText, a.Grows b → (compactLeafSize a.name a.technology a.description : Size K).AtMost
      (compactLeafSize b.name b.technology b.description)) ∧
    (∀ a b : String, LabelGrows a b →
      (fullLeafSize a : Size K).AtMost (fullLeafSize b) ∧ (labelSize a : Size K).AtMost (labelSize b)) ∧
    (∀ a b : String, (Text.lines a).length < (Text.lines b).length →
      (fullLeafSize a : Size K).height < (fullLeafSize b).height) ∧
    (∀ name technology description, (⟨150, 50⟩ : Size K).AtMost (compactLeafSize name technology description)) ∧
    ∀ label, (⟨160, 60⟩ : Size K).AtMost (fullLeafSize label) :=
  ⟨fun _ _ grows => grows.size, fun _ _ grows => ⟨grows.fullLeafSize, grows.labelSize⟩,
    fun _ _ more => fullLeafSize_height_lt_iff.mpr more, compactLeafSize_least, fullLeafSize_least⟩

end Exact

/-- A leaf without a name, with a description of one line. -/
def namelessText : LeafText := ⟨none, none, some "keeps files"⟩

/-- A leaf with a short name, a technology and a description of two lines. -/
def shortText : LeafText := ⟨some "A", some "Disk", some "and logs\nkeeps files too"⟩

/-- A name of one character will do for a missing one, and a line may move to another place. -/
theorem shortText_grows :
    namelessText.Grows shortText ∧
      (compactLeafSize none none (some "keeps files") : Size ℚ) = ⟨150, 69⟩ ∧
      (compactLeafSize (some "A") (some "Disk") (some "and logs\nkeeps files too") : Size ℚ) = ⟨160, 102⟩ ∧
      (⟨150, 69⟩ : Size ℚ).AtMost ⟨160, 102⟩ ∧
      LabelGrows "Disk" "keeps\nmany large files" ∧
      (fullLeafSize "Disk" : Size ℚ).AtMost (fullLeafSize "keeps\nmany large files") ∧
      (labelSize "Disk" : Size ℚ).AtMost (labelSize "keeps\nmany large files") ∧
      (fullLeafSize "Disk" : Size ℚ).height < (fullLeafSize "keeps\nmany large files").height := by
  obtain ⟨compact, labels, higher, -, -⟩ := estimatedSizes_grow ℚ
  have grows : namelessText.Grows shortText := by
    refine ⟨.inl rfl, by simp [namelessText], ?_⟩
    rintro d isSome
    obtain rfl : "keeps files" = d := Option.some.inj isSome
    exact ⟨_, rfl, by decide +kernel, by decide +kernel⟩
  have small : (compactLeafSize none none (some "keeps files") : Size ℚ) = ⟨150, 69⟩ := by decide +kernel
  have large : (compactLeafSize (some "A") (some "Disk") (some "and logs\nkeeps files too") : Size ℚ) = ⟨160, 102⟩ := by
    decide +kernel
  have size := compact namelessText shortText grows
  simp only [namelessText, shortText] at size
  rw [small, large] at size
  have label : LabelGrows "Disk" "keeps\nmany large files" := ⟨by decide +kernel, by decide +kernel⟩
  obtain ⟨full, beside⟩ := labels _ _ label
  exact ⟨grows, small, large, size, label, full, beside, higher _ _ (by decide +kernel)⟩

end BoxDiagram
