/-
Module: BoxDiagram.Colour.Syntax
Purpose: Recognition of CSS colours and the reason why a text is not one.
Main exports: SyntaxFault, SyntaxFault.reason, checkColour
-/
import BoxDiagram.Colour.Names
import BoxDiagram.Number.Reading

namespace BoxDiagram.Colour

/-- Why a text is not a colour. -/
inductive SyntaxFault where
  | unknownAngleDimension
  | unknownAngle
  | unknownComponent
  | unknownIdentifier
  | unknownSpace
  | unknownSyntax
  | expectedArguments
  | expectedClosingParenthesis
  | expectedSpaceIdentifier
  | expectedComma
  | expectedEnd
  | wrongHexDigitCount
deriving Repr, DecidableEq

def SyntaxFault.reason : SyntaxFault → String
  | unknownAngleDimension => "unknown angle dimension"
  | unknownAngle => "unknown angle"
  | unknownComponent => "unknown color component"
  | unknownIdentifier => "unknown color identifier"
  | unknownSpace => "unknown color space"
  | unknownSyntax => "unknown color syntax"
  | expectedArguments => "expected arguments"
  | expectedClosingParenthesis => "expected closing parenthesis"
  | expectedSpaceIdentifier => "expected color space identifier"
  | expectedComma => "expected comma"
  | expectedEnd => "expected end of string"
  | wrongHexDigitCount => "wrong number of hex digits"

/-! ### Comments and blanks -/

/-- What follows the end of a comment whose opening has been read. -/
def closeComment? : List Char → Option (List Char)
  | [] => none
  | '*' :: '/' :: rest => some rest
  | _ :: rest => closeComment? rest

theorem closeComment?_length {cs rest : List Char} (h : closeComment? cs = some rest) :
    rest.length < cs.length := by
  fun_induction closeComment? cs with
  | case1 => simp at h
  | case2 r => cases h; simp only [List.length_cons]; omega
  | case3 _ _ _ ih => have := ih h; simp only [List.length_cons]; omega

/-- Skip the comments at the front; `none` if one of them is not closed. -/
def skipComments? : List Char → Option (List Char)
  | '/' :: '*' :: rest =>
      match _h : closeComment? rest with
      | none => none
      | some after => skipComments? after
  | cs => some cs
termination_by cs => cs.length
decreasing_by
  have := closeComment?_length _h
  simp; omega

/-- A blank between the parts of a colour. -/
def isSpace (c : Char) : Bool := c == ' ' || c == '\t' || c == '\r' || c == '\n'

/-- Skip blanks and comments.  A comment that is not closed stops the skipping before it. -/
def skipSpace (cs : List Char) : List Char :=
  go cs (cs.length + 1)
where
  /-- Alternate between comments and blanks until neither is left. -/
  go (cs : List Char) : Nat → List Char
    | 0 => cs
    | fuel + 1 =>
        match skipComments? cs with
        | none => cs
        | some rest =>
            let after := rest.dropWhile isSpace
            if after.length < rest.length then go after fuel else after

/-- Read one character after any comments. -/
def readChar? (c : Char) (cs : List Char) : Option (List Char) :=
  match skipComments? cs with
  | some (d :: rest) => if c = d then some rest else none
  | _ => none

/-! ### Tokens -/

/-- May this character stand in an identifier at the given position?  Digits need a letter before them. -/
def inIdentifier (first : Option Char) (position : Nat) (c : Char) : Bool :=
  c.isAlpha || c == '_' || c == '-' ||
    ((position ≥ 2 || (position == 1 && first != some '-')) && c.isDigit)

/-- The longest run of identifier characters. -/
def spanIdentifier (first : Option Char) (position : Nat) : List Char → List Char × List Char
  | [] => ([], [])
  | c :: rest =>
      if inIdentifier first position c then
        let (name, after) := spanIdentifier first (position + 1) rest
        (c :: name, after)
      else ([], c :: rest)

/-- Read an identifier.  The empty one, a lone hyphen and those with two hyphens in front are refused. -/
def readIdentifier? (cs : List Char) : Option (List Char × List Char) :=
  let (name, rest) := spanIdentifier cs.head? 0 cs
  if (name.take 2).all (· == '-') then none else some (name, rest)

/-- Skip a number: sign, digits, point with digits, exponent with digits.  The point and the exponent stay
unread when no digit follows them. -/
def skipNumber? (cs : List Char) : Option (List Char) :=
  match skipComments? cs with
  | none => none
  | some cs =>
      let (_, rest) := spanSign cs
      let (whole, rest) := spanDigits rest
      let (fraction, rest) :=
        match rest with
        | '.' :: after =>
            match spanDigits after with
            | ([], _) => ([], rest)
            | found => found
        | _ => ([], rest)
      if whole.isEmpty && fraction.isEmpty then none
      else
        match rest with
        | 'e' :: after | 'E' :: after =>
            match spanDigits (spanSign after).2 with
            | ([], _) => some rest
            | (_, after) => some after
        | _ => some rest

/-- One argument of a colour function. -/
inductive Argument where
  | number
  | percentage
  | dimension (unit : String)
  | keyword (name : String)
deriving Repr, DecidableEq

def lowerName (name : List Char) : String := String.ofList (name.map Char.toLower)

/-- Read an argument; the number of an argument does not matter here, only its form. -/
def readArgument? (cs : List Char) : Option (Argument × List Char) :=
  match skipNumber? cs with
  | some ('%' :: rest) => some (.percentage, rest)
  | some rest =>
      match readIdentifier? rest with
      | some (unit, rest) => some (.dimension (lowerName unit), rest)
      | none => some (.number, rest)
  | none =>
      let cs := (skipComments? cs).getD cs
      (readIdentifier? cs).map fun (name, rest) => (.keyword (lowerName name), rest)

/-! ### Colour functions -/

/-- What is left to read, or why there is no colour. -/
abbrev Reading := Except SyntaxFault (List Char)

/-- A component: a number, a percentage or `none`. -/
def readComponent (cs : List Char) : Reading :=
  match readArgument? (skipSpace cs) with
  | some (.number, rest) | some (.percentage, rest) | some (.keyword "none", rest) => .ok rest
  | _ => .error .unknownComponent

/-- An angle: a number, a number with an angle unit, or `none`. -/
def readAngle (cs : List Char) : Reading :=
  match readArgument? (skipSpace cs) with
  | some (.number, rest) | some (.keyword "none", rest) => .ok rest
  | some (.dimension unit, rest) =>
      if ["deg", "rad", "grad", "turn"].contains unit then .ok rest else .error .unknownAngleDimension
  | _ => .error .unknownAngle

/-- The opening parenthesis directly after the name of a function. -/
def openArguments : List Char → Reading
  | '(' :: rest => .ok rest
  | _ => .error .expectedArguments

/-- A comma where the notation with commas needs one. -/
def readSeparator (commas : Bool) (cs : List Char) : Reading :=
  let cs := skipSpace cs
  if commas then
    match readChar? ',' cs with
    | some rest => .ok rest
    | none => .error .expectedComma
  else .ok cs

/-- A comma, if there is one, and whether there was. -/
def readComma (cs : List Char) : Bool × List Char :=
  let cs := skipSpace cs
  match readChar? ',' cs with
  | some rest => (true, rest)
  | none => (false, cs)

/-- The optional opacity, after a comma or a slash, and the closing parenthesis. -/
def closeArguments (commas : Bool) (cs : List Char) : Reading := do
  let cs := skipSpace cs
  let cs ← match readChar? (if commas then ',' else '/') cs with
    | some rest => readComponent rest
    | none => pure cs
  match readChar? ')' (skipSpace cs) with
  | some rest => .ok rest
  | none => .error .expectedClosingParenthesis

/-- Three arguments, of which the first is read by `first`, with commas between all of them or none. -/
def readLegacy (first : List Char → Reading) (cs : List Char) : Reading := do
  let cs ← openArguments cs
  let cs ← first cs
  let (commas, cs) := readComma cs
  let cs ← readComponent cs
  let cs ← readSeparator commas cs
  let cs ← readComponent cs
  closeArguments commas cs

/-- Three arguments without commas, read one after the other. -/
def readModern (first second third : List Char → Reading) (cs : List Char) : Reading := do
  let cs ← openArguments cs
  let cs ← first cs
  let cs ← second cs
  let cs ← third cs
  closeArguments false cs

/-- The colour spaces that `color()` knows. -/
def colourSpaces : List String :=
  ["srgb", "srgb-linear", "display-p3", "a98-rgb", "prophoto-rgb", "rec2020", "aces2065-1", "acescg",
    "xyz-d50", "xyz-d65", "xyz"]

/-- The name of a colour space and three components. -/
def readSpace (cs : List Char) : Reading := do
  let cs ← openArguments cs
  match readIdentifier? (skipSpace cs) with
  | none => .error .expectedSpaceIdentifier
  | some (name, rest) =>
      if colourSpaces.contains (lowerName name) then do
        let rest ← readComponent rest
        let rest ← readComponent rest
        let rest ← readComponent rest
        closeArguments false rest
      else .error .unknownSpace

/-- Read what follows the name of a colour or of a colour function. -/
def readNamed (name : String) (cs : List Char) : Reading :=
  match name with
  | "rgb" | "rgba" => readLegacy readComponent cs
  | "hsl" | "hsla" => readLegacy readAngle cs
  | "hwb" => readModern readAngle readComponent readComponent cs
  | "lab" | "oklab" => readModern readComponent readComponent readComponent cs
  | "lch" | "oklch" => readModern readComponent readComponent readAngle cs
  | "color" => readSpace cs
  | _ => if colourKeywords.contains name then .ok cs else .error .unknownIdentifier

def isHexDigit (c : Char) : Bool :=
  c.isDigit || ('a' ≤ c && c ≤ 'f') || ('A' ≤ c && c ≤ 'F')

/-- Read the digits after a number sign; at most eight are looked at. -/
def readHex (cs : List Char) : Reading :=
  let count := ((cs.take 8).takeWhile isHexDigit).length
  if [3, 4, 6, 8].contains count then .ok (cs.drop count) else .error .wrongHexDigitCount

/-- Read the longest colour at the front. -/
def readColour : List Char → Reading
  | '#' :: rest => readHex rest
  | cs =>
      match readIdentifier? cs with
      | some (name, rest) => readNamed (lowerName name) rest
      | none => .error .unknownSyntax

def checkColour (text : String) : Except SyntaxFault Unit := do
  match ← readColour text.toList with
  | [] => .ok ()
  | _ :: _ => .error .expectedEnd

end BoxDiagram.Colour
