/-
Module: BoxDiagram.Geometry
Purpose: Points, sizes, rectangles and insets in the plane, with x to the right and y downwards.
Main exports: Point, Size, Bounds, Insets, Metric
-/
import BoxDiagram.Number.Scalar

namespace BoxDiagram

/-- A position, or the displacement between two positions. -/
structure Point (α : Type) where
  x : α
  y : α
deriving Repr, DecidableEq

/-- Width and height. -/
structure Size (α : Type) where
  width : α
  height : α
deriving Repr, DecidableEq

/-- Space along the four sides of a rectangle. -/
structure Insets (α : Type) where
  top : α
  right : α
  bottom : α
  left : α
deriving Repr, DecidableEq

/-- A rectangle by its least and greatest coordinates. -/
structure Bounds (α : Type) where
  minX : α
  minY : α
  maxX : α
  maxY : α
deriving Repr, DecidableEq

/-- How far two points are apart.  It is an interface of its own because exact arithmetic has no square
roots. -/
class Metric (α : Type) where
  distance : Point α → Point α → α

variable {α : Type} [Scalar α]

namespace Point

/-- The point with both coordinates zero. -/
def origin : Point α := ⟨0.0, 0.0⟩

instance : Inhabited (Point α) := ⟨origin⟩

instance : Add (Point α) := ⟨fun p q => ⟨p.x + q.x, p.y + q.y⟩⟩

instance : Sub (Point α) := ⟨fun p q => ⟨p.x - q.x, p.y - q.y⟩⟩

def midpoint (p q : Point α) : Point α := ⟨(p.x + q.x) / 2.0, (p.y + q.y) / 2.0⟩

/-- The point at parameter `t` of the segment from `p` to `q`: `p` at zero and `q` at one. -/
def lerp (p q : Point α) (t : α) : Point α := ⟨p.x + (q.x - p.x) * t, p.y + (q.y - p.y) * t⟩

end Point

namespace Insets

def zero : Insets α := ⟨0.0, 0.0, 0.0, 0.0⟩

def uniform (v : α) : Insets α := ⟨v, v, v, v⟩

/-- Space to the left and right together. -/
def horizontal (i : Insets α) : α := i.left + i.right

def vertical (i : Insets α) : α := i.top + i.bottom

end Insets

namespace Size

def zero : Size α := ⟨0.0, 0.0⟩

/-- The larger width and the larger height of two sizes. -/
def max (s t : Size α) : Size α := ⟨Scalar.larger s.width t.width, Scalar.larger s.height t.height⟩

/-- The size with the insets added around it. -/
def pad (s : Size α) (i : Insets α) : Size α := ⟨s.width + i.horizontal, s.height + i.vertical⟩

end Size

namespace Bounds

/-- The rectangle with this top left corner and size. -/
def ofTopLeft (corner : Point α) (size : Size α) : Bounds α :=
  ⟨corner.x, corner.y, corner.x + size.width, corner.y + size.height⟩

def width (b : Bounds α) : α := b.maxX - b.minX

def height (b : Bounds α) : α := b.maxY - b.minY

def center (b : Bounds α) : Point α := ⟨b.minX + b.width / 2.0, b.minY + b.height / 2.0⟩

/-- Do the rectangles overlap when `padding` is kept between them?  They do not if one lies entirely beyond
the other, padding included, along some axis. -/
def intersects (a b : Bounds α) (padding : α) : Bool :=
  !(decide (a.maxX + padding < b.minX) || decide (b.maxX + padding < a.minX) ||
    decide (a.maxY + padding < b.minY) || decide (b.maxY + padding < a.minY))

end Bounds

/-- The distance on floating numbers is computed with 64 bits and rounded once; an infinite difference is
infinitely far even when the other one is not a number. -/
def floatDistance (p q : Point Float32) : Float32 :=
  let dx := q.x - p.x
  let dy := q.y - p.y
  if dx.isInf || dy.isInf then Float32.ofBits 0x7F800000
  else (dx.toFloat * dx.toFloat + dy.toFloat * dy.toFloat).sqrt.toFloat32

instance : Metric Float32 := ⟨floatDistance⟩

end BoxDiagram
