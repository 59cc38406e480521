/-
Module: BoxDiagram.Picture.Size
Purpose: The size that an SVG document states for itself.
Main exports: LengthUnit, SvgLength, readLength?, readViewBox?, svgSize?, readSvgSize
-/
import BoxDiagram.Geometry
import BoxDiagram.Xml.Document

namespace BoxDiagram

/-! ### Lengths -/

/-- Split off a number.  A letter `e` that begins a unit is no exponent. -/
def spanSvgNumber (cs : List Char) : List Char × List Char :=
  let sign := cs.takeWhile fun c => c == '+' || c == '-'
  let rest := cs.drop (sign.take 1).length
  let (whole, rest) := spanDigits rest
  let (fraction, rest) := match rest with
    | '.' :: rest => let (digits, rest) := spanDigits rest; ('.' :: digits, rest)
    | rest => ([], rest)
  let (power, rest) := match rest with
    | e :: c :: rest =>
        if (e == 'e' || e == 'E') && c != 'm' && c != 'x' then
          let (digits, rest) := spanDigits rest
          (e :: c :: digits, rest)
        else ([], e :: c :: rest)
    | rest => ([], rest)
  (sign.take 1 ++ whole ++ fraction ++ power, rest)

/-- A number after blanks, and what follows it. -/
def readSvgNumber? (cs : List Char) : Option (Float × List Char) := do
  let (number, rest) := spanSvgNumber (cs.dropWhile Xml.isXmlSpace)
  let value ← readFloat64? (String.ofList number)
  if value.isFinite then some (value, rest) else none

/-- The units of lengths. -/
inductive LengthUnit where
  | user
  | percent
  | em
  | ex
  | inch
  | centimetre
  | millimetre
  | point
  | pica
deriving Repr, DecidableEq, Inhabited

def LengthUnit.ofWord? : String → Option LengthUnit
  | "" | "px" => some user
  | "%" => some percent
  | "em" => some em
  | "ex" => some ex
  | "in" => some inch
  | "cm" => some centimetre
  | "mm" => some millimetre
  | "pt" => some point
  | "pc" => some pica
  | _ => none

/-- A length with its unit. -/
structure SvgLength where
  number : Float
  unit : LengthUnit
deriving Repr, Inhabited

def readLength? (text : String) : Option SvgLength := do
  let (number, rest) ← readSvgNumber? text.toList
  return ⟨number, ← LengthUnit.ofWord? (String.ofList rest)⟩

def standardFontSize : Float32 := 12.0

def pixelsPerInch : Float32 := 96.0

/-- A length in pixels.  A percentage is one of `whole`. -/
def SvgLength.pixels (l : SvgLength) (whole : Float32) : Float32 :=
  let n := l.number.toFloat32
  match l.unit with
  | .user => n
  | .percent => whole * n / 100.0
  | .em => n * standardFontSize
  | .ex => n * standardFontSize / 2.0
  | .inch => n * pixelsPerInch
  | .centimetre => n * pixelsPerInch / 2.54
  | .millimetre => n * pixelsPerInch / 25.4
  | .point => n * pixelsPerInch / 72.0
  | .pica => n * pixelsPerInch / 6.0

/-! ### Sizes -/

/-- A number of a list, and what follows it and the comma after it. -/
def readListNumber? (cs : List Char) : Option (Float × List Char) := do
  let (number, rest) ← readSvgNumber? cs
  match rest.dropWhile Xml.isXmlSpace with
  | ',' :: rest => return (number, rest)
  | rest => return (number, rest)

/-- A width and a height that a drawing can have. -/
def properSize? (width height : Float32) : Option (Size Float32) :=
  let isProper (x : Float32) : Bool := x.isFinite && decide ((0 : Float32) < x)
  if isProper width && isProper height then some ⟨width, height⟩ else none

/-- The size of the part of the plane that a document shows. -/
def readViewBox? (text : String) : Option (Size Float32) := do
  let (_, rest) ← readListNumber? text.toList
  let (_, rest) ← readListNumber? rest
  let (width, rest) ← readListNumber? rest
  let (height, _) ← readListNumber? rest
  properSize? width.toFloat32 height.toFloat32

/-- Width and height of a document that states neither a size nor a part of the plane. -/
def fallbackExtent : Float32 := 100.0

/-- One of the two extents of a document, where a percentage is one of `whole`. -/
def extent (root : Xml.RootElement) (name : String) (whole : Float32) : Float32 :=
  (((root.attribute? name).bind readLength?).getD ⟨100.0, .percent⟩).pixels whole

/-- The size of a document, if its extents are positive. -/
def svgSize? (root : Xml.RootElement) : Option (Size Float32) :=
  let shown := ((root.attribute? "viewBox").bind readViewBox?).getD ⟨fallbackExtent, fallbackExtent⟩
  properSize? (extent root "width" shown.width) (extent root "height" shown.height)

def svgNamespace : String := "http://www.w3.org/2000/svg"

/-- The size of the document in a text, or what is wrong with the text. -/
def readSvgSize (svg : String) : Except String (Size Float32) := do
  let malformed (fault : Xml.XmlFault) : String := "SVG data parsing failed cause " ++ fault.message
  let root ← (Xml.readXml svg).mapError malformed
  if root.name != "svg" || !(root.space.all (· = svgNamespace)) then throw (malformed .noRoot)
  match svgSize? root with
  | some size => return size
  | none => throw "SVG has an invalid size"

end BoxDiagram
