/-
Module: BoxDiagram.Drawing.Path
Purpose: Lines through points, with rounded bends.
Main exports: PathStep, roundedPath, pathData, polylineLength, pointAtFraction
-/
import BoxDiagram.Geometry
import BoxDiagram.Text.Split

namespace BoxDiagram

/-- A step of a path. -/
inductive PathStep (α : Type) where
  /-- Begin at a point. -/
  | start (p : Point α)
  /-- A straight line to a point. -/
  | line (p : Point α)
  /-- A curve around a corner to a point. -/
  | curve (corner p : Point α)
deriving Repr, DecidableEq

variable {α : Type} [Scalar α] [Metric α]

/-- Is a length zero?  A length that is not a number is not. -/
def isZeroLength (length : α) : Bool := decide (length ≤ 0.0) && decide ((0.0 : α) ≤ length)

/-- The steps around one bend: a line to where the curve begins, and the curve.  The curve takes at most
`radius` and at most half of either segment.  A bend next to a segment without length stays sharp. -/
def bendSteps (radius : α) (previous current next : Point α) : List (PathStep α) :=
  let incoming := current - previous
  let outgoing := next - current
  let incomingLength := Metric.distance previous current
  let outgoingLength := Metric.distance current next
  if isZeroLength incomingLength || isZeroLength outgoingLength then [.line current]
  else
    let r := Scalar.smaller (Scalar.smaller radius (incomingLength / 2.0)) (outgoingLength / 2.0)
    let before : Point α :=
      ⟨current.x - incoming.x / incomingLength * r, current.y - incoming.y / incomingLength * r⟩
    let after : Point α :=
      ⟨current.x + outgoing.x / outgoingLength * r, current.y + outgoing.y / outgoingLength * r⟩
    [.line before, .curve current after]

/-- The steps from the first of the given points to the last one, without the first step. -/
def pathTail (radius : α) : List (Point α) → List (PathStep α)
  | a :: b :: c :: rest => bendSteps radius a b c ++ pathTail radius (b :: c :: rest)
  | [_, b] => [.line b]
  | [a] => [.line a]
  | [] => []

/-- The path through the points, with its bends rounded. -/
def roundedPath (radius : α) : List (Point α) → List (PathStep α)
  | [] => []
  | p :: rest => .start p :: pathTail radius (p :: rest)

def pointText [NumberText α] (p : Point α) : String := NumberText.print p.x ++ " " ++ NumberText.print p.y

def PathStep.text [NumberText α] : PathStep α → String
  | .start p => "M " ++ pointText p
  | .line p => "L " ++ pointText p
  | .curve corner p => "Q " ++ pointText corner ++ ", " ++ pointText p

def pathData [NumberText α] (steps : List (PathStep α)) : String := Text.joinWith " " (steps.map PathStep.text)

/-! ### Points along a line -/

def segmentLengths : List (Point α) → List α
  | a :: b :: rest => Metric.distance a b :: segmentLengths (b :: rest)
  | _ => []

/-- Sum of the lengths of the segments. -/
def polylineLength (points : List (Point α)) : α := Scalar.sum (segmentLengths points)

/-- Walk along the points until `target` is reached, of which `walked` lies behind. -/
def walkTo? (target walked : α) : List (Point α) → Option (Point α)
  | a :: b :: rest =>
      let length := Metric.distance a b
      if target ≤ walked + length ∧ (0.0 : α) < length then some (a.lerp b ((target - walked) / length))
      else walkTo? target (walked + length) (b :: rest)
  | _ => none

/-- The point at a share of the length of a line.  A line without length has its middle as every such point,
and no points at all give the origin. -/
def pointAtFraction (points : List (Point α)) (fraction : α) : Point α :=
  match points with
  | [] => Point.origin
  | first :: rest =>
      match walkTo? (polylineLength points * fraction) 0.0 points with
      | some p => p
      | none => first.midpoint (rest.getLastD first)

end BoxDiagram
