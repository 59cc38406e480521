/-
Module: BoxDiagram.Proofs.TextRows
Purpose: Rows of text.  A text is measured with the same width for all of its characters, and rows stand one below
  another with some distance between them.
Main exports: textWidth, textWidth_le_longest, Text.longest_le_iff, Text.lines_ne_nil, pairwise_map_zipIdx,
  Descending, RowsBetween, RowsBetween.append
-/
import BoxDiagram.Drawing.Text
import BoxDiagram.Proofs.ExactNumbers
import BoxDiagram.Text.Split
import Mathlib.Tactic.Linarith

namespace BoxDiagram

-- The operations of a field are found as its own, and not again through the interface.
attribute [-instance] Scalar.toAdd Scalar.toSub Scalar.toMul Scalar.toDiv Scalar.toNeg Scalar.toLT Scalar.toLE
  Scalar.toOfScientific

/-! ### Lines and their lengths -/

namespace Text

/-- The longest length is found by going through the list, so the induction runs over every length that the texts before
may have left. -/
theorem foldl_length_le_iff (texts : List String) (start n : ℕ) :
    texts.foldl (fun n s => max n s.length) start ≤ n ↔ start ≤ n ∧ ∀ s ∈ texts, s.length ≤ n := by
  induction texts generalizing start with
  | nil => simp
  | cons text rest ih => simp only [List.foldl_cons, ih, max_le_iff, List.forall_mem_cons, and_assoc]

theorem longest_le_iff {texts : List String} {n : ℕ} : longest texts ≤ n ↔ ∀ s ∈ texts, s.length ≤ n := by
  simp [longest, foldl_length_le_iff]

theorem length_le_longest {texts : List String} {s : String} (mem : s ∈ texts) : s.length ≤ longest texts :=
  longest_le_iff.mp le_rfl s mem

theorem splitList_ne_nil (sep : Char) (cs : List Char) : splitList sep cs ≠ [] := by
  cases cs with
  | nil => simp [splitList]
  | cons c rest =>
      rw [splitList]
      split
      · simp
      · split <;> simp

/-- Every text has a line. -/
theorem lines_ne_nil (s : String) : lines s ≠ [] := by
  simp [lines, splitOn, splitList_ne_nil]

end Text

section Width

variable {K : Type} [Field K]

/-- The width of a text with so much for every character. -/
def textWidth (perCharacter : K) (text : String) : K := text.length * perCharacter

variable [LinearOrder K] [IsStrictOrderedRing K]

/-- A text of a list is at most as wide as so many characters as the longest one has. -/
theorem textWidth_le_longest {perCharacter : K} (nonneg : 0 ≤ perCharacter) {texts : List String} {text : String}
    (mem : text ∈ texts) : textWidth perCharacter text ≤ Text.longest texts * perCharacter := by
  apply mul_le_mul_of_nonneg_right _ nonneg
  exact_mod_cast Text.length_le_longest mem

end Width

/-! ### One below another -/

/-- What is made of the entries of a list and of their numbers is in order if it is for any two numbers. -/
theorem pairwise_map_zipIdx {β γ : Type} {R : γ → γ → Prop} {f : β × ℕ → γ} {xs : List β}
    (rising : ∀ a b i j, i < j → R (f (a, i)) (f (b, j))) : (xs.zipIdx.map f).Pairwise R := by
  rw [List.pairwise_iff_getElem]
  intro i j _ _ before
  simp only [List.getElem_map, List.getElem_zipIdx]
  apply rising
  omega

section Rows

variable {K : Type} [LinearOrder K]

/-- The captions stand one below another. -/
def Descending (captions : List (Caption K)) : Prop :=
  captions.Pairwise fun upper lower => upper.baseline < lower.baseline

variable [Field K]

/-- From `above` down to `below`, the rows keep the distance `gap` from what is above them. -/
structure RowsBetween (gap above : K) (rows : List K) (below : K) : Prop where
  ordered : above ≤ below
  spaced : rows.Pairwise fun upper lower => upper + gap ≤ lower
  begun : ∀ y ∈ rows, above + gap ≤ y
  ended : ∀ y ∈ rows, y ≤ below

namespace RowsBetween

theorem nil (gap a : K) : RowsBetween gap a [] a := ⟨le_refl a, by simp, by simp, by simp⟩

variable [IsStrictOrderedRing K] {gap a b c : K} {xs ys : List K}

theorem singleton (nonneg : 0 ≤ gap) (far : a + gap ≤ b) : RowsBetween gap a [b] b :=
  ⟨by linarith, by simp, by simpa using far, by simp⟩

/-- Rows below other rows. -/
theorem append (upper : RowsBetween gap a xs b) (lower : RowsBetween gap b ys c) : RowsBetween gap a (xs ++ ys) c := by
  refine ⟨upper.ordered.trans lower.ordered, ?_, ?_, ?_⟩
  · rw [List.pairwise_append]
    refine ⟨upper.spaced, lower.spaced, fun x isUpper y isLower => ?_⟩
    have ended := upper.ended x isUpper
    have begun := lower.begun y isLower
    linarith
  · intro y mem
    rcases List.mem_append.mp mem with isUpper | isLower
    · exact upper.begun y isUpper
    · have ordered := upper.ordered
      have begun := lower.begun y isLower
      linarith
  · intro y mem
    rcases List.mem_append.mp mem with isUpper | isLower
    · exact (upper.ended y isUpper).trans lower.ordered
    · exact lower.ended y isLower

/-- Rows that are all moved by the same distance. -/
theorem shift (rows : RowsBetween gap a xs b) (t : K) : RowsBetween gap (t + a) (xs.map (t + ·)) (t + b) := by
  refine ⟨by linarith [rows.ordered], ?_, ?_, ?_⟩
  · rw [List.pairwise_map]
    exact rows.spaced.imp fun far => by linarith
  · simpa [add_assoc] using rows.begun
  · simpa using rows.ended

end RowsBetween

end Rows

end BoxDiagram
