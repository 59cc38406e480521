/-
Module: BoxDiagram.Drawing.Label
Purpose: Places for the labels of edges that keep clear of what has been placed before.
Main exports: labelRect, PlacedRects, labelCandidates, LabelPlacement, findLabelPosition
-/
import BoxDiagram.Drawing.Path
import BoxDiagram.Layout.LeafSize

namespace BoxDiagram

variable {α : Type} [Scalar α]

/-- The rectangle of a label.  The anchor stands on the last line of text, 2 above the lower edge, in the
middle from left to right. -/
def labelRect (anchor : Point α) (size : Size α) : Bounds α :=
  .ofTopLeft ⟨anchor.x - size.width / 2.0, anchor.y - size.height + 2.0⟩ size

/-- Rectangles that are taken, and the distance to keep from them. -/
structure PlacedRects (α : Type) where
  rects : List (Bounds α)
  padding : α
deriving Repr

namespace PlacedRects

def empty (padding : α) : PlacedRects α := ⟨[], padding⟩

def push (p : PlacedRects α) (rect : Bounds α) : PlacedRects α := { p with rects := p.rects ++ [rect] }

/-- Is a rectangle clear of all that are taken? -/
def isFree (p : PlacedRects α) (rect : Bounds α) : Bool :=
  !p.rects.any fun placed => rect.intersects placed p.padding

end PlacedRects

/-- A place for a label. -/
structure LabelPlacement (α : Type) where
  anchor : Point α
  rect : Bounds α
deriving Repr

/-- The place of a label of this size at an anchor. -/
def LabelPlacement.at (size : Size α) (anchor : Point α) : LabelPlacement α := ⟨anchor, labelRect anchor size⟩

/-- The places along the line that are tried first. -/
def labelFractions : List α := [0.5, 0.35, 0.65, 0.25, 0.75, 0.15, 0.85]

/-- The places along the line around which others are tried. -/
def nudgeFractions : List α := [0.5, 0.3, 0.7]

/-- How far from such a place they are. -/
def nudges : List (Point α) := [
  ⟨0.0, -(20.0)⟩, ⟨0.0, 20.0⟩, ⟨30.0, 0.0⟩, ⟨-(30.0), 0.0⟩, ⟨0.0, -(40.0)⟩, ⟨0.0, 40.0⟩,
  ⟨50.0, 0.0⟩, ⟨-(50.0), 0.0⟩, ⟨30.0, -(20.0)⟩, ⟨-(30.0), 20.0⟩, ⟨0.0, -(60.0)⟩, ⟨0.0, 60.0⟩,
  ⟨70.0, 0.0⟩, ⟨-(70.0), 0.0⟩, ⟨50.0, -(30.0)⟩, ⟨-(50.0), 30.0⟩, ⟨0.0, -(80.0)⟩, ⟨0.0, 80.0⟩,
  ⟨90.0, 0.0⟩, ⟨-(90.0), 0.0⟩, ⟨0.0, -(100.0)⟩, ⟨0.0, 100.0⟩, ⟨110.0, 0.0⟩, ⟨-(110.0), 0.0⟩,
  ⟨80.0, -(40.0)⟩, ⟨-(80.0), 40.0⟩, ⟨0.0, -(120.0)⟩, ⟨0.0, 120.0⟩, ⟨130.0, 0.0⟩, ⟨-(130.0), 0.0⟩]

variable [Metric α]

/-- The anchors to try, in order: along the line, then around three places of it. -/
def labelAnchors (points : List (Point α)) : List (Point α) :=
  (labelFractions.map fun f => pointAtFraction points f) ++
    nudgeFractions.flatMap fun f =>
      let reference := pointAtFraction points f
      nudges.map fun d => reference + d

/-- The places to try for a label, in order. -/
def labelCandidates (points : List (Point α)) (size : Size α) : List (LabelPlacement α) :=
  (labelAnchors points).map (LabelPlacement.at size)

/-- The first free place for a label along a line, or the middle of the line if none is free. -/
def findLabelPosition (points : List (Point α)) (size : Size α) (placed : PlacedRects α) :
    LabelPlacement α :=
  match (labelCandidates points size).find? fun c => placed.isFree c.rect with
  | some c => c
  | none => .at size (pointAtFraction points 0.5)

end BoxDiagram
