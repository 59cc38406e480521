/-
Module: BoxDiagram.Proofs.RoundedBends
Purpose: A line through points whose bends are rounded follows the segments between the points and never runs backwards on
  one.  At every bend it leaves the incoming segment at most half way before the bend and joins the outgoing segment at
  most half way behind it, so neighbouring curves do not overlap.
Main exports: Turn, TurnsAt, bendSteps_turn, RoundedLine, pathData_roundedPath
-/
import BoxDiagram.Drawing.Path
import BoxDiagram.Proofs.ExactArithmetic
import BoxDiagram.Proofs.ExactNumbers

namespace BoxDiagram

open scoped ExactNumbers

-- The operations of a field are found as its own, and not again through the interface.
attribute [-instance] Scalar.toAdd Scalar.toSub Scalar.toMul Scalar.toDiv Scalar.toNeg Scalar.toLT Scalar.toLE
  Scalar.toOfScientific

/-! ### Turns -/

/-- How a line goes round a bend. -/
inductive Turn (α : Type) where
  /-- Straight to the bend. -/
  | sharp (corner : Point α)
  /-- Straight to the first point, and from there to the last one in a curve that the bend controls. -/
  | curved (arrive corner leave : Point α)

namespace Turn

variable {α : Type}

def corner : Turn α → Point α
  | sharp b => b
  | curved _ b _ => b

/-- Where the line stops being on the incoming segment. -/
def arrive : Turn α → Point α
  | sharp b => b
  | curved p _ _ => p

/-- Where the line begins to be on the outgoing segment. -/
def leave : Turn α → Point α
  | sharp b => b
  | curved _ _ q => q

def steps : Turn α → List (PathStep α)
  | sharp b => [.line b]
  | curved p b q => [.line p, .curve b q]

def text [NumberText α] : Turn α → String
  | sharp b => " L " ++ pointText b
  | curved p b q => " L " ++ pointText p ++ " Q " ++ pointText b ++ ", " ++ pointText q

end Turn

section Turns

variable {K : Type} [Field K] [LinearOrder K] [Metric K] {radius : K} {a b c : Point K} {turn : Turn K}

/-- The radius at a bend: at most half of either segment. -/
def bendRadius (radius : K) (a b c : Point K) : K :=
  min (min radius (Metric.distance a b / 2)) (Metric.distance b c / 2)

/-- The turn at the bend `b` between two other points.  It is sharp if it has a segment without length beside it.  If not,
it takes the same length of either segment, which is the radius at the bend. -/
inductive TurnsAt (radius : K) (a b c : Point K) : Turn K → Prop where
  | sharp (noLength : Metric.distance a b = 0 ∨ Metric.distance b c = 0) : TurnsAt radius a b c (.sharp b)
  | curved (incoming : Metric.distance a b ≠ 0) (outgoing : Metric.distance b c ≠ 0) :
      TurnsAt radius a b c (.curved (b.lerp a (bendRadius radius a b c / Metric.distance a b)) b
        (b.lerp c (bendRadius radius a b c / Metric.distance b c)))

theorem TurnsAt.corner_eq (turns : TurnsAt radius a b c turn) : turn.corner = b := by
  cases turns <;> rfl

/-- The turns of a line with a radius at the points between its ends. -/
structure TurnsAlong (radius : K) (first : Point K) (middle : List (Point K)) (last : Point K)
    (turns : List (Turn K)) : Prop where
  /-- There is one turn at every point between the ends, in order. -/
  corners : turns.map Turn.corner = middle
  /-- The turn with the number `i` is at the bend between the points with the numbers `i` and `i + 2`. -/
  turnsAt : ∀ {i : ℕ} {a b c : Point K} {turn : Turn K}, (first :: middle ++ [last])[i]? = some a →
    (first :: middle ++ [last])[i + 1]? = some b → (first :: middle ++ [last])[i + 2]? = some c →
      turns[i]? = some turn → TurnsAt radius a b c turn

/-- One more point before the first one makes the first one a bend. -/
theorem TurnsAlong.cons {first second last next : Point K} {middle rest : List (Point K)} {turns : List (Turn K)}
    (later : TurnsAlong radius second middle last turns) (isNext : middle ++ [last] = next :: rest)
    (here : TurnsAt radius first second next turn) :
    TurnsAlong radius first (second :: middle) last (turn :: turns) := by
  refine ⟨?_, ?_⟩
  · rw [List.map_cons, here.corner_eq, later.corners]
  · intro i a b c t isA isB isC isTurn
    rw [List.cons_append, List.cons_append] at isA isB isC
    cases i with
    | zero =>
        rw [isNext] at isC
        simp only [List.getElem?_cons_zero, List.getElem?_cons_succ, Option.some.injEq] at isA isB isC isTurn
        subst isA isB isC isTurn
        exact here
    | succ i =>
        rw [List.getElem?_cons_succ] at isA isB isC isTurn
        exact later.turnsAt isA isB isC isTurn

end Turns

section Exact

variable {K : Type} [Field K] [LinearOrder K] [IsStrictOrderedRing K]

theorem isZeroLength_iff {length : K} : isZeroLength length = true ↔ length = 0 := by
  rw [isZeroLength, Bool.and_eq_true, decide_eq_true_eq, decide_eq_true_eq, ExactNumbers.zero_eq, le_antisymm_iff]

/-- A radius of at most half of a length is between none and a half of it. -/
theorem share_bounds {r length : K} (nonneg : 0 ≤ r) (half : r ≤ length / 2) (long : 0 < length) :
    0 ≤ r / length ∧ r / length ≤ 1 / 2 := by
  refine ⟨div_nonneg nonneg long.le, ?_⟩
  rw [div_le_iff₀ long]
  linarith

variable [Metric K] {radius : K} {a b c : Point K} {turn : Turn K}

/-- What is drawn at a bend is a turn there. -/
theorem bendSteps_turn (radius : K) (a b c : Point K) :
    ∃ turn, TurnsAt radius a b c turn ∧ bendSteps radius a b c = turn.steps := by
  rw [bendSteps]
  dsimp only
  split
  · rename_i noLength
    rw [Bool.or_eq_true, isZeroLength_iff, isZeroLength_iff] at noLength
    exact ⟨.sharp b, .sharp noLength, rfl⟩
  · rename_i bothLong
    rw [Bool.or_eq_true, isZeroLength_iff, isZeroLength_iff, not_or] at bothLong
    refine ⟨_, .curved bothLong.1 bothLong.2, ?_⟩
    have incoming : ∀ x y : K, y - (y - x) / Metric.distance a b * bendRadius radius a b c =
        y + (x - y) * (bendRadius radius a b c / Metric.distance a b) := by
      intro x y
      ring
    have outgoing : ∀ x y : K, x + (y - x) / Metric.distance b c * bendRadius radius a b c =
        x + (y - x) * (bendRadius radius a b c / Metric.distance b c) := by
      intro x y
      ring
    rw [ExactNumbers.smaller_eq_min, ExactNumbers.smaller_eq_min, ExactNumbers.two_eq, Turn.steps, ← bendRadius,
      Point.lerp, Point.lerp, ← incoming, ← incoming, ← outgoing, ← outgoing]
    rfl

/-! ### Where a turn takes up its segments -/

theorem bendRadius_nonneg (separating : Metric.Separating K) (nonneg : 0 ≤ radius) : 0 ≤ bendRadius radius a b c :=
  le_min (le_min nonneg (div_nonneg (separating.nonneg a b) zero_le_two))
    (div_nonneg (separating.nonneg b c) zero_le_two)

/-- A turn leaves the incoming segment in its second half. -/
theorem TurnsAt.arrive (separating : Metric.Separating K) (nonneg : 0 ≤ radius) (turns : TurnsAt radius a b c turn) :
    ∃ t, 1 / 2 ≤ t ∧ t ≤ 1 ∧ turn.arrive = a.lerp b t := by
  cases turns with
  | sharp => exact ⟨1, by norm_num, le_refl 1, (a.lerp_one b).symm⟩
  | curved incoming outgoing =>
      obtain ⟨low, high⟩ := share_bounds (bendRadius_nonneg separating nonneg)
        ((min_le_left _ _).trans (min_le_right _ _) : bendRadius radius a b c ≤ Metric.distance a b / 2)
        (separating.pos_of_ne_zero incoming)
      refine ⟨1 - bendRadius radius a b c / Metric.distance a b, ?_, ?_, Point.lerp_swap b a _⟩
      · linarith
      · linarith

/-- A turn joins the outgoing segment in its first half. -/
theorem TurnsAt.leave (separating : Metric.Separating K) (nonneg : 0 ≤ radius) (turns : TurnsAt radius a b c turn) :
    ∃ s, 0 ≤ s ∧ s ≤ 1 / 2 ∧ turn.leave = b.lerp c s := by
  cases turns with
  | sharp => exact ⟨0, le_refl 0, by norm_num, (b.lerp_zero c).symm⟩
  | curved incoming outgoing =>
      obtain ⟨low, high⟩ := share_bounds (bendRadius_nonneg separating nonneg)
        (min_le_right _ _ : bendRadius radius a b c ≤ Metric.distance b c / 2) (separating.pos_of_ne_zero outgoing)
      exact ⟨_, low, high, rfl⟩

/-! ### All turns of a line -/

/-- The induction is on the points between the ends, each of which adds its turn before those of the rest. -/
theorem pathTail_turns (radius : K) (first : Point K) (middle : List (Point K)) (last : Point K) :
    ∃ turns, TurnsAlong radius first middle last turns ∧
      pathTail radius (first :: middle ++ [last]) = turns.flatMap Turn.steps ++ [.line last] := by
  induction middle generalizing first with
  | nil =>
      refine ⟨[], ⟨rfl, ?_⟩, rfl⟩
      intro i a b c turn _ _ _ none
      exact absurd none (by simp)
  | cons second rest ih =>
      obtain ⟨turns, later, steps⟩ := ih second
      obtain ⟨next, others, isNext⟩ := List.exists_cons_of_ne_nil (List.append_ne_nil_of_right_ne_nil rest
        (List.cons_ne_nil last []))
      obtain ⟨turn, here, bend⟩ := bendSteps_turn radius first second next
      refine ⟨turn :: turns, later.cons isNext here, ?_⟩
      rw [List.cons_append, isNext] at steps
      rw [List.cons_append, List.cons_append, isNext, pathTail, bend, steps, List.flatMap_cons, List.append_assoc]

/-- On every segment the line first is at a point that is not behind the one where it is last. -/
def RunsOnward (first : Point K) (middle : List (Point K)) (last : Point K) (turns : List (Turn K)) : Prop :=
  ∀ i a b, (first :: middle ++ [last])[i]? = some a → (first :: middle ++ [last])[i + 1]? = some b →
    ∃ s t, 0 ≤ s ∧ s ≤ t ∧ t ≤ 1 ∧ (first :: turns.map Turn.leave)[i]? = some (a.lerp b s) ∧
      (turns.map Turn.arrive ++ [last])[i]? = some (a.lerp b t)

theorem TurnsAlong.runsOnward {first last : Point K} {middle : List (Point K)} {turns : List (Turn K)}
    (separating : Metric.Separating K) (nonneg : 0 ≤ radius) (along : TurnsAlong radius first middle last turns) :
    RunsOnward first middle last turns := by
  have count : turns.length = middle.length := by rw [← along.corners, List.length_map]
  intro i a b isA isB
  have inside : i < middle.length + 1 := by
    have bound := (List.getElem?_eq_some_iff.mp isB).1
    simpa using bound
  have point : ∀ k < middle.length + 2, ∃ p, (first :: middle ++ [last])[k]? = some p :=
    fun k within => ⟨_, List.getElem?_eq_getElem (by simpa [Nat.lt_succ_iff] using within)⟩
  have departs : ∃ s, 0 ≤ s ∧ s ≤ 1 / 2 ∧ (first :: turns.map Turn.leave)[i]? = some (a.lerp b s) := by
    cases i with
    | zero =>
        refine ⟨0, le_refl 0, by norm_num, ?_⟩
        simpa using isA
    | succ i =>
        have isTurn : turns[i]? = some turns[i] := List.getElem?_eq_getElem (by omega)
        obtain ⟨_, isBefore⟩ := point i (by omega)
        obtain ⟨s, low, high, leaves⟩ := (along.turnsAt isBefore isA isB isTurn).leave separating nonneg
        refine ⟨s, low, high, ?_⟩
        rw [List.getElem?_cons_succ, List.getElem?_map, isTurn, Option.map_some, leaves]
  have arrives : ∃ t, 1 / 2 ≤ t ∧ t ≤ 1 ∧ (turns.map Turn.arrive ++ [last])[i]? = some (a.lerp b t) := by
    rcases Nat.lt_succ_iff_lt_or_eq.mp inside with before | atEnd
    · have isTurn : turns[i]? = some turns[i] := List.getElem?_eq_getElem (by omega)
      obtain ⟨_, isAfter⟩ := point (i + 2) (by omega)
      obtain ⟨t, low, high, arrives⟩ := (along.turnsAt isA isB isAfter isTurn).arrive separating nonneg
      refine ⟨t, low, high, ?_⟩
      rw [List.getElem?_append_left (by rw [List.length_map]; omega), List.getElem?_map, isTurn, Option.map_some, arrives]
    · refine ⟨1, by norm_num, le_refl 1, ?_⟩
      subst atEnd
      have isLast : b = last := by simpa using isB.symm
      rw [List.getElem?_append_right (by rw [List.length_map]; omega), List.length_map, count, Nat.sub_self,
        Point.lerp_one, isLast]
      rfl
  obtain ⟨s, sLow, sHigh, leaves⟩ := departs
  obtain ⟨t, tLow, tHigh, arrives⟩ := arrives
  exact ⟨s, t, sLow, sHigh.trans tLow, tHigh, leaves, arrives⟩

end Exact

/-! ### The text of a path -/

theorem joinWith_cons (sep s : String) (rest : List String) :
    Text.joinWith sep (s :: rest) = s ++ String.join (rest.map (sep ++ ·)) := by
  induction rest generalizing s with
  | nil => simp [Text.joinWith]
  | cons t rest ih =>
      rw [Text.joinWith, ih]
      simp [String.append_assoc]

section Text

variable {α : Type} [NumberText α]

/-- A straight step with the blank that separates it from the step before. -/
theorem PathStep.blank_line (p : Point α) : " " ++ (line p).text = " L " ++ pointText p := by
  rw [text, ← String.append_assoc]
  rfl

/-- A curve with the blank that separates it from the step before. -/
theorem PathStep.blank_curve (b p : Point α) :
    " " ++ (curve b p).text = " Q " ++ pointText b ++ ", " ++ pointText p := by
  rw [text, ← String.append_assoc, ← String.append_assoc, ← String.append_assoc]
  rfl

/-- The text of a turn is that of its steps, with a blank before each. -/
theorem Turn.text_eq (turn : Turn α) : turn.text = String.join (turn.steps.map fun step => " " ++ step.text) := by
  cases turn with
  | sharp b => simp [steps, text, PathStep.blank_line]
  | curved p b q => simp [steps, text, PathStep.blank_line, PathStep.blank_curve, String.append_assoc]

/-- The text of a line with turns, point by point. -/
theorem pathData_turns (first last : Point α) (turns : List (Turn α)) :
    pathData (.start first :: (turns.flatMap Turn.steps ++ [.line last])) =
      "M " ++ pointText first ++ String.join (turns.map Turn.text) ++ " L " ++ pointText last := by
  have bends : String.join ((turns.flatMap Turn.steps).map fun step => " " ++ step.text) =
      String.join (turns.map Turn.text) := by
    induction turns with
    | nil => rfl
    | cons turn rest ih =>
        rw [List.flatMap_cons, List.map_append, String.join_append, ih, List.map_cons, String.join_cons, turn.text_eq]
  have same : (fun step : PathStep α => " " ++ step.text) = (" " ++ ·) ∘ PathStep.text := rfl
  rw [pathData, List.map_cons, joinWith_cons, List.map_map, List.map_append, String.join_append, ← same, bends,
    List.map_singleton, PathStep.blank_line, PathStep.text]
  simp [String.append_assoc]

end Text

/-! ### Main result -/

/-- The path through two points or more begins at the first one, goes round every point between the ends once and in
order, and stops at the last one.  Along every segment it only runs onward.  There is no curve where there is no bend, and
no points give the empty text. -/
theorem roundedPath_followsPoints {K : Type} [Field K] [LinearOrder K] [IsStrictOrderedRing K] [Metric K] [NumberText K]
    (separating : Metric.Separating K) {radius : K} (nonneg : 0 ≤ radius) :
    (∀ (first : Point K) (middle : List (Point K)) (last : Point K), ∃ turns,
      TurnsAlong radius first middle last turns ∧ RunsOnward first middle last turns ∧
        roundedPath radius (first :: middle ++ [last]) = .start first :: (turns.flatMap Turn.steps ++ [.line last]) ∧
          pathData (roundedPath radius (first :: middle ++ [last])) =
            "M " ++ pointText first ++ String.join (turns.map Turn.text) ++ " L " ++ pointText last) ∧
      (∀ points : List (Point K), points.length < 3 → ∀ corner p, PathStep.curve corner p ∉ roundedPath radius points) ∧
        pathData (roundedPath radius ([] : List (Point K))) = "" := by
  refine ⟨fun first middle last => ?_, fun points few corner p isStep => ?_, rfl⟩
  · obtain ⟨turns, along, tail⟩ := pathTail_turns radius first middle last
    have steps : roundedPath radius (first :: middle ++ [last]) =
        .start first :: (turns.flatMap Turn.steps ++ [.line last]) := by
      rw [List.cons_append, roundedPath, ← List.cons_append, tail]
    refine ⟨turns, along, along.runsOnward separating nonneg, steps, ?_⟩
    rw [steps, pathData_turns]
  · match points with
    | [] => simp [roundedPath] at isStep
    | [a] => simp [roundedPath, pathTail] at isStep
    | [a, b] => simp [roundedPath, pathTail] at isStep
    | _ :: _ :: _ :: _ =>
        simp only [List.length_cons] at few
        omega

/-- Distances along the two axes, added up. -/
@[reducible] def cityMetric : Metric ℚ := ⟨fun p q => |q.x - p.x| + |q.y - p.y|⟩

attribute [local instance] cityMetric

theorem cityMetric_separating : Metric.Separating ℚ := by
  refine ⟨fun {p q} differ => ?_, fun p => ?_⟩
  · have xNonneg := abs_nonneg (q.x - p.x)
    have yNonneg := abs_nonneg (q.y - p.y)
    have sum : Metric.distance p q = |q.x - p.x| + |q.y - p.y| := rfl
    rw [sum]
    by_contra notPos
    have sameX : |q.x - p.x| = 0 := by linarith
    have sameY : |q.y - p.y| = 0 := by linarith
    exact differ (Point.eq_of_coordinates (sub_eq_zero.mp (abs_eq_zero.mp sameX)).symm
      (sub_eq_zero.mp (abs_eq_zero.mp sameY)).symm)
  · have none : Metric.distance p p = |p.x - p.x| + |p.y - p.y| := rfl
    rw [none, sub_self, sub_self, abs_zero, add_zero]

/-- A line with a bend, and with a point that is given twice and so stays sharp. -/
theorem repeatedPoint_followsPoints :
    Metric.Separating ℚ ∧ (0 : ℚ) ≤ 12 ∧
      pathData (roundedPath (12 : ℚ) [⟨0, 0⟩, ⟨50, 0⟩, ⟨50, 40⟩, ⟨50, 40⟩, ⟨100, 40⟩]) =
        "M 0 0 L 38 0 Q 50 0, 50 12 L 50 40 L 50 40 L 100 40" ∧
      ∃ turns, TurnsAlong (12 : ℚ) ⟨0, 0⟩ [⟨50, 0⟩, ⟨50, 40⟩, ⟨50, 40⟩] ⟨100, 40⟩ turns ∧
        RunsOnward ⟨0, 0⟩ [⟨50, 0⟩, ⟨50, 40⟩, ⟨50, 40⟩] ⟨100, 40⟩ turns := by
  have nonneg : (0 : ℚ) ≤ 12 := by norm_num
  obtain ⟨turns, along, onward, -⟩ := (roundedPath_followsPoints cityMetric_separating nonneg).1 ⟨0, 0⟩
    [⟨50, 0⟩, ⟨50, 40⟩, ⟨50, 40⟩] ⟨100, 40⟩
  exact ⟨cityMetric_separating, nonneg, by decide +kernel, turns, along, onward⟩

end BoxDiagram
