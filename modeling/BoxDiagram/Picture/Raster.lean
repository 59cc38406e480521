/-
Module: BoxDiagram.Picture.Raster
Purpose: The picture of an SVG document at a resolution.  Documents are read and drawn, and pictures are encoded, by a
  painter that comes from outside.
Main exports: Painter, exportPng, Extent, Painter.measuring
-/
import BoxDiagram.Failure
import BoxDiagram.Picture.Size

namespace BoxDiagram

/-- What turns documents into pictures.  A step that can fail gives the text of its fault. -/
structure Painter (δ π : Type) where
  /-- The document in an SVG text. -/
  read : String → Except String δ
  size : δ → Size Float32
  /-- An empty picture of a width and a height in pixels, if there can be one. -/
  blank? : Nat → Nat → Option π
  /-- The document at a scale on a white ground, which covers all of the picture. -/
  draw : δ → Float32 → π → π
  /-- The bytes of a PNG file. -/
  encode : π → Except String ByteArray

/-- The number of pixels for a length at a scale. -/
def pixelCount (length scale : Float32) : Nat := (length * scale).ceil.toUInt32.toNat

/-- The picture of an SVG text with so many pixels to the inch, as the bytes of a PNG file. -/
def exportPng {δ π : Type} (painter : Painter δ π) (svg : String) (dpi : Nat) : Except ExportFault ByteArray := do
  let document ← (painter.read svg).mapError fun text => .render ("Failed to parse SVG: " ++ text)
  let size := painter.size document
  let scale := (UInt32.ofNat dpi).toFloat32 / pixelsPerInch
  let width := pixelCount size.width scale
  let height := pixelCount size.height scale
  match painter.blank? width height with
  | none => throw (.render ("Cannot allocate a " ++ toString width ++ "x" ++ toString height ++ " pixmap"))
  | some picture =>
      (painter.encode (painter.draw document scale picture)).mapError fun text =>
        .render ("Failed to encode PNG: " ++ text)

/-! ### Measuring without painting -/

/-- Width and height of a picture in pixels. -/
structure Extent where
  width : Nat
  height : Nat
deriving Repr, DecidableEq, Inhabited

/-- Is the picture not empty, and is there memory for its rows? -/
def Extent.isPossible (e : Extent) : Bool :=
  e.width != 0 && e.height != 0 && decide (e.width * 4 < powerOfTwo 31)

/-- A painter that knows how large pictures are, but not what they show.  It gives none of them away as a file. -/
def Painter.measuring : Painter (Size Float32) Extent where
  read := readSvgSize
  size := id
  blank? width height := if (Extent.mk width height).isPossible then some ⟨width, height⟩ else none
  draw _ _ extent := extent
  encode _ := .error "there is no painter for documents"

end BoxDiagram
