/-
Module: BoxDiagram.Proofs.ArcLength
Purpose: The point at a share of the length of a line.  It is on a segment that has a length, and as far along it as is
  left of the share of the whole length after all segments before; so every place along the line that is tried for a label
  is on the line.
Main exports: AtLength, walkTo?_atLength, segmentLengths_take, segmentLengths_drop, OnLine, pointAtFraction_share,
  straightMetric
-/
import BoxDiagram.Drawing.Label
import BoxDiagram.Proofs.ExactNumbers
import Mathlib.Analysis.Real.Sqrt
import Mathlib.Tactic.Linarith

namespace BoxDiagram

open scoped ExactNumbers

-- The operations of a field are found as its own, and not again through the interface.
attribute [-instance] Scalar.toAdd Scalar.toSub Scalar.toMul Scalar.toDiv Scalar.toNeg Scalar.toLT Scalar.toLE
  Scalar.toOfScientific

/-! ### Segments of a line -/

section Segments

variable {α : Type} [Metric α]

/-- The segments between the first points. -/
theorem segmentLengths_take (points : List (Point α)) (k : ℕ) :
    segmentLengths (points.take (k + 1)) = (segmentLengths points).take k := by
  induction points generalizing k with
  | nil => simp [segmentLengths]
  | cons a rest ih =>
      cases rest with
      | nil => simp [segmentLengths]
      | cons b rest =>
          cases k with
          | zero => simp [segmentLengths]
          | succ k =>
              have later := ih k
              rw [List.take_succ_cons] at later ⊢
              rw [List.take_succ_cons, segmentLengths, segmentLengths, List.take_succ_cons, later]

/-- The segments between the last points. -/
theorem segmentLengths_drop (points : List (Point α)) (k : ℕ) :
    segmentLengths (points.drop k) = (segmentLengths points).drop k := by
  induction k generalizing points with
  | zero => rfl
  | succ k ih =>
      match points with
      | [] => simp [segmentLengths]
      | [a] => simp [segmentLengths]
      | a :: b :: rest => rw [List.drop_succ_cons, ih, segmentLengths, List.drop_succ_cons]

/-- The lengths before a segment, its own, and those behind it are all there is. -/
theorem sum_segmentLengths_split [AddMonoid α] {points : List (Point α)} {k : ℕ} {a b : Point α}
    (start : points[k]? = some a) (stop : points[k + 1]? = some b) :
    (segmentLengths points).sum =
      ((segmentLengths points).take k).sum + (Metric.distance a b + (segmentLengths (points.drop (k + 1))).sum) := by
  obtain ⟨startInside, rfl⟩ := List.getElem?_eq_some_iff.mp start
  obtain ⟨stopInside, rfl⟩ := List.getElem?_eq_some_iff.mp stop
  have here : segmentLengths (points.drop k) =
      Metric.distance points[k] points[k + 1] :: segmentLengths (points.drop (k + 1)) := by
    rw [List.drop_eq_getElem_cons startInside, List.drop_eq_getElem_cons stopInside, segmentLengths]
  rw [← List.sum_cons, ← here, segmentLengths_drop, ← List.sum_append, List.take_append_drop]

end Segments

/-! ### Places tried for labels -/

/-- The first candidates for a label are those along the line. -/
theorem labelCandidates_take {α : Type} [Scalar α] [Metric α] (points : List (Point α)) (size : Size α) :
    (labelCandidates points size).take 7 =
      (labelFractions.map fun f => pointAtFraction points f).map (LabelPlacement.at size) := by
  rw [labelCandidates, labelAnchors, ← List.map_take, List.take_left' (by rfl)]

theorem labelFractions_bounds {K : Type} [Field K] [LinearOrder K] [IsStrictOrderedRing K] {f : K}
    (mem : f ∈ (labelFractions : List K)) : 0 ≤ f ∧ f ≤ 1 := by
  simp only [labelFractions, List.mem_cons, List.not_mem_nil, or_false] at mem
  rcases mem with rfl | rfl | rfl | rfl | rfl | rfl | rfl <;> norm_num

section Exact

variable {K : Type} [Field K] [LinearOrder K] [Metric K] {points : List (Point K)}

/-! ### Lengths of segments -/

theorem segmentLengths_nonneg (separating : Metric.Separating K) (points : List (Point K)) :
    ∀ length ∈ segmentLengths points, 0 ≤ length := by
  fun_induction segmentLengths points with
  | case1 a b rest ih => exact List.forall_mem_cons.mpr ⟨separating.nonneg a b, ih⟩
  | case2 => exact fun length mem => absurd mem List.not_mem_nil

/-- A line of which no segment has a length has none itself. -/
theorem sum_eq_zero_of_short (separating : Metric.Separating K) (short : ∀ length ∈ segmentLengths points, length ≤ 0) :
    (segmentLengths points).sum = 0 :=
  List.sum_eq_zero fun l mem => le_antisymm (short l mem) (segmentLengths_nonneg separating points l mem)

variable [IsStrictOrderedRing K]

theorem polylineLength_eq (points : List (Point K)) : polylineLength points = (segmentLengths points).sum :=
  ExactNumbers.sum_eq _

theorem sum_segmentLengths_nonneg (separating : Metric.Separating K) (points : List (Point K)) :
    0 ≤ (segmentLengths points).sum :=
  List.sum_nonneg (segmentLengths_nonneg separating points)

/-- Where all segments together have no length, there is only one point. -/
theorem eq_of_sum_eq_zero (separating : Metric.Separating K) (points : List (Point K))
    (none : (segmentLengths points).sum = 0) : ∀ p ∈ points, points.head? = some p := by
  induction points with
  | nil => exact fun p mem => absurd mem List.not_mem_nil
  | cons a rest ih =>
      cases rest with
      | nil => simp
      | cons b rest =>
          have here := separating.nonneg a b
          have later := sum_segmentLengths_nonneg separating (b :: rest)
          rw [segmentLengths, List.sum_cons] at none
          have same : a = b := separating.eq_zero_iff.mp (by linarith)
          subst same
          have inRest := ih (by linarith)
          intro p mem
          rcases List.mem_cons.mp mem with rfl | isLater
          · rfl
          · exact inRest p isLater

/-! ### The walk along a line -/

/-- The point `p` comes after `target` of the length of the line.  It is on the segment with the number `k`, from `a` to
`b`, at the parameter `t`; the segment has a length, and with that of the segments before it reaches up to the target. -/
structure AtLength (points : List (Point K)) (target : K) (p : Point K) (k : ℕ) (a b : Point K) (t : K) : Prop where
  start : points[k]? = some a
  stop : points[k + 1]? = some b
  long : 0 < Metric.distance a b
  behind : ((segmentLengths points).take k).sum ≤ target
  ahead : target ≤ ((segmentLengths points).take k).sum + Metric.distance a b
  nonneg : 0 ≤ t
  atMostOne : t ≤ 1
  share : ((segmentLengths points).take k).sum + t * Metric.distance a b = target
  point : p = a.lerp b t

/-- One more segment before a line adds its length to what is walked. -/
theorem AtLength.cons {first second a b p : Point K} {rest : List (Point K)} {target t : K} {k : ℕ}
    (later : AtLength (second :: rest) (target - Metric.distance first second) p k a b t) :
    AtLength (first :: second :: rest) target p (k + 1) a b t := by
  obtain ⟨start, stop, long, behind, ahead, nonneg, atMostOne, share, point⟩ := later
  have walked : ((segmentLengths (first :: second :: rest)).take (k + 1)).sum =
      Metric.distance first second + ((segmentLengths (second :: rest)).take k).sum := by
    rw [segmentLengths, List.take_succ_cons, List.sum_cons]
  refine ⟨start, stop, long, ?_, ?_, nonneg, atMostOne, ?_, point⟩
  all_goals rw [walked]; linarith

/-- The walk comes to the target if this lies ahead of what is walked and not beyond the end of the line.  The induction is
along the points; a segment is passed by if it ends before the target or has no length, and then one with a length is
still to come. -/
theorem walkTo?_atLength (separating : Metric.Separating K) {target walked : K} (behind : walked ≤ target)
    (ahead : target ≤ walked + (segmentLengths points).sum) (hasLength : ∃ length ∈ segmentLengths points, 0 < length) :
    ∃ p k a b t, walkTo? target walked points = some p ∧ AtLength points (target - walked) p k a b t := by
  fun_induction walkTo? target walked points with
  | case1 walked a b rest length reaches =>
      obtain ⟨within, long⟩ := reaches
      rw [ExactNumbers.zero_eq] at long
      refine ⟨_, 0, a, b, _, rfl, rfl, rfl, long, ?_, ?_, ?_, ?_, ?_, rfl⟩
      · simpa using behind
      · rw [List.take_zero, List.sum_nil, zero_add, sub_le_iff_le_add']
        exact within
      · exact div_nonneg (sub_nonneg.mpr behind) long.le
      · rw [div_le_one long, sub_le_iff_le_add']
        exact within
      · simp [length, div_mul_cancel₀ _ long.ne']
  | case2 walked a b rest length passes ih =>
      rw [segmentLengths, List.sum_cons] at ahead
      have nonneg : 0 ≤ length := separating.nonneg a b
      rw [ExactNumbers.zero_eq, not_and_or, not_le, not_lt] at passes
      have stillBehind : walked + length ≤ target := by
        rcases passes with before | none
        · exact before.le
        · linarith
      have longLater : ∃ l ∈ segmentLengths (b :: rest), 0 < l := by
        rcases passes with before | none
        · by_contra allShort
          push Not at allShort
          rw [sum_eq_zero_of_short separating allShort, add_zero] at ahead
          exact absurd ahead (not_le.mpr before)
        · obtain ⟨l, mem, long⟩ := hasLength
          rw [segmentLengths] at mem
          rcases List.mem_cons.mp mem with rfl | later
          · exact absurd long (not_lt.mpr none)
          · exact ⟨l, later, long⟩
      obtain ⟨p, k, a', b', t, walks, later⟩ := ih stillBehind (by rw [add_assoc]; exact ahead) longLater
      refine ⟨p, k + 1, a', b', t, walks, AtLength.cons ?_⟩
      rw [sub_sub]
      exact later
  | case3 walked points short =>
      obtain ⟨l, mem, -⟩ := hasLength
      rw [segmentLengths] at mem
      · exact absurd mem List.not_mem_nil
      · exact short

/-! ### Shares of the whole length -/

theorem pointAtFraction_atLength (separating : Metric.Separating K)
    (hasLength : ∃ length ∈ segmentLengths points, 0 < length) {f : K} (nonneg : 0 ≤ f) (atMostOne : f ≤ 1) :
    ∃ k a b t, AtLength points (f * polylineLength points) (pointAtFraction points f) k a b t := by
  have total : 0 ≤ polylineLength points := by
    rw [polylineLength_eq]
    exact sum_segmentLengths_nonneg separating points
  have behind : (0.0 : K) ≤ polylineLength points * f := by
    rw [ExactNumbers.zero_eq]
    exact mul_nonneg total nonneg
  have ahead : polylineLength points * f ≤ 0.0 + (segmentLengths points).sum := by
    rw [ExactNumbers.zero_eq, zero_add, ← polylineLength_eq]
    exact mul_le_of_le_one_right total atMostOne
  obtain ⟨p, k, a, b, t, walks, reached⟩ := walkTo?_atLength separating behind ahead hasLength
  refine ⟨k, a, b, t, ?_⟩
  rw [ExactNumbers.zero_eq, sub_zero, mul_comm] at reached
  cases points with
  | nil => exact absurd reached.start (by simp)
  | cons first rest =>
      rw [pointAtFraction, walks]
      exact reached

/-- What comes after nothing of the length is the first point, as there is no length before it. -/
theorem AtLength.eq_head (separating : Metric.Separating K) {p a b : Point K} {k : ℕ} {t : K}
    (reached : AtLength points 0 p k a b t) : points.head? = some p := by
  have before := sum_segmentLengths_nonneg separating (points.take (k + 1))
  have here := mul_nonneg reached.nonneg reached.long.le
  have share := reached.share
  rw [← segmentLengths_take] at share
  have parameter : t = 0 := by
    have none : t * Metric.distance a b = 0 := by linarith
    exact (mul_eq_zero.mp none).resolve_right reached.long.ne'
  have isFirst : a ∈ points.take (k + 1) := by
    refine List.mem_of_getElem? (i := k) ?_
    rw [List.getElem?_take_of_lt (Nat.lt_succ_self k)]
    exact reached.start
  have first := eq_of_sum_eq_zero separating _ (by linarith) a isFirst
  rw [List.head?_take, if_neg (Nat.succ_ne_zero k)] at first
  rw [first, reached.point, parameter, Point.lerp_zero]

/-- What comes after the whole length is the last point, as there is no length behind it. -/
theorem AtLength.eq_getLast (separating : Metric.Separating K) {p a b : Point K} {k : ℕ} {t : K}
    (reached : AtLength points (segmentLengths points).sum p k a b t) : points.getLast? = some p := by
  have behind := sum_segmentLengths_nonneg separating (points.drop (k + 1))
  have left := mul_nonneg (sub_nonneg.mpr reached.atMostOne) reached.long.le
  have share := reached.share
  rw [sum_segmentLengths_split reached.start reached.stop] at share
  have parameter : t = 1 := by
    have none : (1 - t) * Metric.distance a b = 0 := by linarith
    exact (sub_eq_zero.mp ((mul_eq_zero.mp none).resolve_right reached.long.ne')).symm
  obtain ⟨inside, rfl⟩ := List.getElem?_eq_some_iff.mp reached.stop
  have same := eq_of_sum_eq_zero separating (points.drop (k + 1)) (by linarith)
  have isNext : points[k + 1] ∈ points.drop (k + 1) := by
    rw [List.drop_eq_getElem_cons inside]
    exact List.mem_cons_self
  have notEmpty : points.drop (k + 1) ≠ [] := List.ne_nil_of_mem isNext
  have isLast := same _ (List.getLast_mem notEmpty)
  rw [same _ isNext, Option.some.injEq] at isLast
  rw [reached.point, parameter, Point.lerp_one, isLast, List.getLast_drop, List.getLast?_eq_some_getLast]

/-! ### Lines without length -/

/-- The walk passes by all segments without length. -/
theorem walkTo?_eq_none (target walked : K) (short : ∀ length ∈ segmentLengths points, length ≤ 0) :
    walkTo? target walked points = none := by
  fun_induction walkTo? target walked points with
  | case1 walked a b rest length reaches =>
      rw [ExactNumbers.zero_eq] at reaches
      exact absurd reaches.2 (not_lt.mpr (short length (by rw [segmentLengths]; exact List.mem_cons_self)))
  | case2 walked a b rest length passes ih =>
      refine ih fun l mem => short l ?_
      rw [segmentLengths]
      exact List.mem_cons_of_mem _ mem
  | case3 => rfl

/-- At every share, a line without length has the middle between its ends. -/
theorem pointAtFraction_of_sum_eq_zero (separating : Metric.Separating K) (none : (segmentLengths points).sum = 0)
    {first last : Point K} (isFirst : points.head? = some first) (isLast : points.getLast? = some last) (f : K) :
    pointAtFraction points f = ⟨(first.x + last.x) / 2, (first.y + last.y) / 2⟩ := by
  have short : ∀ length ∈ segmentLengths points, length ≤ 0 :=
    fun length mem => none ▸ List.single_le_sum (segmentLengths_nonneg separating points) length mem
  cases points with
  | nil => exact absurd isFirst (by simp)
  | cons p rest =>
      rw [List.head?_cons, Option.some.injEq] at isFirst
      rw [List.getLast?_cons, Option.some.injEq] at isLast
      subst isFirst
      rw [pointAtFraction, walkTo?_eq_none _ _ short]
      dsimp only
      rw [List.getLastD_eq_getLast?, isLast, Point.midpoint, ExactNumbers.two_eq]

/-! ### Labels along a line -/

/-- The point is one of those given, or on a segment between two neighbours of them. -/
def OnLine (points : List (Point K)) (p : Point K) : Prop :=
  p ∈ points ∨ ∃ k a b t, points[k]? = some a ∧ points[k + 1]? = some b ∧ 0 ≤ t ∧ t ≤ 1 ∧ p = a.lerp b t

/-- The point at any share of the length is on the line. -/
theorem pointAtFraction_onLine (separating : Metric.Separating K) (notEmpty : points ≠ []) {f : K} (nonneg : 0 ≤ f)
    (atMostOne : f ≤ 1) : OnLine points (pointAtFraction points f) := by
  by_cases hasLength : ∃ length ∈ segmentLengths points, 0 < length
  · obtain ⟨k, a, b, t, reached⟩ := pointAtFraction_atLength separating hasLength nonneg atMostOne
    exact .inr ⟨k, a, b, t, reached.start, reached.stop, reached.nonneg, reached.atMostOne, reached.point⟩
  · push Not at hasLength
    have none := sum_eq_zero_of_short separating hasLength
    have isLast := List.getLast_mem notEmpty
    have isFirst := eq_of_sum_eq_zero separating points none _ isLast
    have middle := pointAtFraction_of_sum_eq_zero separating none isFirst (List.getLast?_eq_some_getLast notEmpty) f
    rw [add_self_div_two, add_self_div_two] at middle
    rw [middle]
    exact .inl isLast

/-! ### Main result -/

/-- If a line has length, the point at a share of it is reached after this share of the whole, none of it is the first
point, and all of it is the last one.  A line without length has its middle at every share, and no points have the origin.
So the candidates for a label along a line are on it. -/
theorem pointAtFraction_share (separating : Metric.Separating K) (points : List (Point K)) :
    ((∃ length ∈ segmentLengths points, 0 < length) →
      (∀ f, 0 ≤ f → f ≤ 1 → ∃ k a b t, AtLength points (f * polylineLength points) (pointAtFraction points f) k a b t) ∧
        points.head? = some (pointAtFraction points 0) ∧ points.getLast? = some (pointAtFraction points 1)) ∧
      (polylineLength points = 0 → ∀ f first last, points.head? = some first → points.getLast? = some last →
        pointAtFraction points f = ⟨(first.x + last.x) / 2, (first.y + last.y) / 2⟩) ∧
      (∀ f : K, pointAtFraction ([] : List (Point K)) f = ⟨0, 0⟩) ∧
      (points ≠ [] → ∀ size, ∀ c ∈ (labelCandidates points size).take 7, OnLine points c.anchor) := by
  refine ⟨fun hasLength => ⟨fun f nonneg atMostOne => pointAtFraction_atLength separating hasLength nonneg atMostOne,
    ?_, ?_⟩, fun none f first last isFirst isLast => ?_, fun f => ?_, fun notEmpty size c isCandidate => ?_⟩
  · obtain ⟨k, a, b, t, reached⟩ := pointAtFraction_atLength separating hasLength (le_refl 0) zero_le_one
    rw [zero_mul] at reached
    exact reached.eq_head separating
  · obtain ⟨k, a, b, t, reached⟩ := pointAtFraction_atLength separating hasLength zero_le_one (le_refl 1)
    rw [one_mul, polylineLength_eq] at reached
    exact reached.eq_getLast separating
  · rw [polylineLength_eq] at none
    exact pointAtFraction_of_sum_eq_zero separating none isFirst isLast f
  · rw [pointAtFraction, Point.origin, ExactNumbers.zero_eq]
  · rw [labelCandidates_take, List.map_map] at isCandidate
    obtain ⟨f, isFraction, rfl⟩ := List.mem_map.mp isCandidate
    obtain ⟨nonneg, atMostOne⟩ := labelFractions_bounds isFraction
    exact pointAtFraction_onLine separating notEmpty nonneg atMostOne

end Exact

/-- The length of the straight line between two points of the plane. -/
@[reducible] noncomputable def straightMetric : Metric ℝ :=
  ⟨fun p q => Real.sqrt ((q.x - p.x) ^ 2 + (q.y - p.y) ^ 2)⟩

theorem straightMetric_separating : @Metric.Separating ℝ _ _ straightMetric := by
  refine @Metric.Separating.mk ℝ _ _ straightMetric ?_ ?_
  · intro p q differ
    refine Real.sqrt_pos.mpr ?_
    by_contra notPos
    have xSquare := sq_nonneg (q.x - p.x)
    have ySquare := sq_nonneg (q.y - p.y)
    have sameX : q.x - p.x = 0 := by
      rw [← sq_eq_zero_iff]
      linarith
    have sameY : q.y - p.y = 0 := by
      rw [← sq_eq_zero_iff]
      linarith
    exact differ (Point.eq_of_coordinates (sub_eq_zero.mp sameX).symm (sub_eq_zero.mp sameY).symm)
  · intro p
    have here : Real.sqrt ((p.x - p.x) ^ 2 + (p.y - p.y) ^ 2) = 0 := by simp
    exact here

attribute [local instance] straightMetric

/-- A line over a corner in the plane of real numbers, with the point of the corner given twice. -/
noncomputable def cornerLine : List (Point ℝ) := [⟨0, 0⟩, ⟨100, 0⟩, ⟨100, 0⟩, ⟨100, 100⟩]

theorem cornerLine_share :
    Metric.Separating ℝ ∧ (∃ length ∈ segmentLengths cornerLine, 0 < length) ∧ (0 : ℝ) ≤ 1 / 4 ∧ (1 / 4 : ℝ) ≤ 1 ∧
      cornerLine ≠ [] ∧
      (∃ k a b t, AtLength cornerLine (1 / 4 * polylineLength cornerLine) (pointAtFraction cornerLine (1 / 4)) k a b t) ∧
      pointAtFraction cornerLine 0 = ⟨0, 0⟩ ∧ pointAtFraction cornerLine 1 = ⟨100, 100⟩ ∧
      (∀ size, ∀ c ∈ (labelCandidates cornerLine size).take 7, OnLine cornerLine c.anchor) ∧
      polylineLength [(⟨3, 4⟩ : Point ℝ), ⟨3, 4⟩] = 0 ∧
      pointAtFraction [(⟨3, 4⟩ : Point ℝ), ⟨3, 4⟩] (1 / 4) = ⟨(3 + 3) / 2, (4 + 4) / 2⟩ := by
  have hasLength : ∃ length ∈ segmentLengths cornerLine, 0 < length := by
    refine ⟨Metric.distance ⟨0, 0⟩ ⟨100, 0⟩, ?_, straightMetric_separating.pos (by simp)⟩
    simp [cornerLine, segmentLengths]
  have quarterNonneg : (0 : ℝ) ≤ 1 / 4 := by norm_num
  have quarterAtMost : (1 / 4 : ℝ) ≤ 1 := by norm_num
  have notEmpty : cornerLine ≠ [] := List.cons_ne_nil _ _
  obtain ⟨onLength, -, -, labels⟩ := pointAtFraction_share straightMetric_separating cornerLine
  obtain ⟨reached, isFirst, isLast⟩ := onLength hasLength
  have none : polylineLength [(⟨3, 4⟩ : Point ℝ), ⟨3, 4⟩] = 0 := by
    rw [polylineLength_eq, segmentLengths, straightMetric_separating.self]
    simp [segmentLengths]
  have middle := (pointAtFraction_share straightMetric_separating [(⟨3, 4⟩ : Point ℝ), ⟨3, 4⟩]).2.1 none (1 / 4) _ _ rfl rfl
  exact ⟨straightMetric_separating, hasLength, quarterNonneg, quarterAtMost, notEmpty,
    reached _ quarterNonneg quarterAtMost, (Option.some.inj isFirst).symm, (Option.some.inj isLast).symm,
    labels notEmpty, none, middle⟩

end BoxDiagram
