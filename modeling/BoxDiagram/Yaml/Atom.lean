/-
Module: BoxDiagram.Yaml.Atom
Purpose: What the text of a scalar stands for: nothing, a truth value, a number or itself.
Main exports: YamlNumber, YamlNumber.text, Atom, Atom.ofPlain, ScalarTag
-/
import BoxDiagram.Number.Reading
import BoxDiagram.Number.Scalar
import BoxDiagram.Text.Digit

namespace BoxDiagram.Yaml

/-! ### Numbers -/

/-- A number: a whole number of 64 bits, or a floating number. -/
inductive YamlNumber where
  | natural (n : Nat)
  /-- The number `-(n + 1)`. -/
  | negative (n : Nat)
  | float (x : Float)
deriving Repr, Inhabited

/-- The shortest decimal of a finite floating number.  Up to sixteen digits before the point and five zeros
after it are written out; beyond that an exponent is used. -/
def floatText (x : Float) : String :=
  let bits := x.toBits.toNat
  let sign := if bits ≥ 0x8000000000000000 then "-" else ""
  let size := bits % 0x8000000000000000
  if size == 0 then sign ++ "0.0"
  else
    let d := shortestDecimal binary64 size
    let digits := Nat.toDigits 10 d.digits
    let point : Int := digits.length + d.exponent
    if 0 ≤ d.exponent && point ≤ 16 then sign ++ d.positional ++ ".0"
    else if -5 < point && point ≤ 16 then sign ++ d.positional
    else
      let fraction := digits.drop 1
      sign ++ String.ofList (digits.take 1) ++
        (if fraction.isEmpty then "" else "." ++ String.ofList fraction) ++ "e" ++ toString (point - 1)

namespace YamlNumber

def text : YamlNumber → String
  | natural n => toString n
  | negative n => toString (Int.negSucc n)
  | float x =>
      if x.isNaN then ".nan"
      else if x.isInf then (if x < 0 then "-.inf" else ".inf")
      else floatText x

/-- Are these the same number, written in the same way?  All undefined numbers are the same. -/
def same : YamlNumber → YamlNumber → Bool
  | natural a, natural b => a == b
  | negative a, negative b => a == b
  | float a, float b => (a.isNaN && b.isNaN) || a == b
  | _, _ => false

def toFloat32 : YamlNumber → Float32
  | natural n => (Numeral.finite false n 0).toFloat32
  | negative n => (Numeral.finite true (n + 1) 0).toFloat32
  | float x => x.toFloat32

end YamlNumber

/-! ### Reading numbers -/

/-- Digits after a mark for a base: `0x`, `0o` or `0b`. -/
def readBased? : List Char → Option Nat
  | '0' :: 'x' :: rest => Text.readDigits? 16 rest
  | '0' :: 'o' :: rest => Text.readDigits? 8 rest
  | '0' :: 'b' :: rest => Text.readDigits? 2 rest
  | _ => none

/-- A zero followed by more digits is a text and not a number. -/
def isPadded : List Char → Bool
  | '0' :: c :: rest => (c :: rest).all Char.isDigit
  | _ => false

/-- A whole number with an optional sign, decimal or after a mark for a base. -/
def readInteger? (text : List Char) : Option Int :=
  match text with
  | '-' :: rest => (readMagnitude? rest).map fun n => -(n : Int)
  | '+' :: rest => (readMagnitude? rest).map fun n => (n : Int)
  | _ => (readMagnitude? text).map fun n => (n : Int)
where
  /-- A whole number without a sign. -/
  readMagnitude? (cs : List Char) : Option Nat :=
    match readBased? cs with
    | some n => some n
    | none => if isPadded cs then none else Text.readDigits? 10 cs

/-- A floating number.  Only the words that begin with a point stand for infinity and the undefined number. -/
def readFloat? (text : String) : Option Float :=
  let unsigned? : Option String :=
    match text.toList with
    | '+' :: '+' :: _ | '+' :: '-' :: _ => none
    | '+' :: rest => some (String.ofList rest)
    | _ => some text
  match unsigned? with
  | none => none
  | some u =>
      if u == ".inf" || u == ".Inf" || u == ".INF" then some (1 / 0)
      else if text == "-.inf" || text == "-.Inf" || text == "-.INF" then some (-1 / 0)
      else if text == ".nan" || text == ".NaN" || text == ".NAN" then some (0 / 0)
      else (readFloat64? u).filter fun x => x.isFinite

def readUnsigned? (text : String) : Option Nat :=
  match text.toList with
  | '-' :: _ => none
  | cs => (readInteger? cs).bind fun i => if i.toNat < powerOfTwo 64 then some i.toNat else none

/-! ### Atoms -/

def isNullWord (text : String) : Bool :=
  text == "null" || text == "Null" || text == "NULL" || text == "~"

def readBool? : String → Option Bool
  | "true" | "True" | "TRUE" => some true
  | "false" | "False" | "FALSE" => some false
  | _ => none

/-- What a scalar stands for. -/
inductive Atom where
  | null
  | bool (b : Bool)
  | number (n : YamlNumber)
  /-- A whole number of more than 64 but at most 128 bits. -/
  | wide (n : Int)
  | text (s : String)
deriving Repr, Inhabited

namespace Atom

/-- A whole number as an atom; `none` if it has more than 128 bits. -/
def ofInteger? (i : Int) : Option Atom :=
  match i with
  | .ofNat n =>
      if n < powerOfTwo 64 then some (.number (.natural n))
      else if n < powerOfTwo 128 then some (.wide i)
      else none
  | .negSucc n =>
      if n < powerOfTwo 63 then some (.number (.negative n))
      else if n < powerOfTwo 127 then some (.wide i)
      else none

/-- The whole number that a text denotes. -/
def readInteger? (text : String) : Option Atom := (Yaml.readInteger? text.toList).bind ofInteger?

/-- Is the text a zero with more digits behind it, maybe with a sign? -/
def isPaddedText (text : String) : Bool :=
  match text.toList with
  | '-' :: rest | '+' :: rest => isPadded rest
  | cs => isPadded cs

/-- What a text without quotes and without a tag stands for. -/
def ofPlain (text : String) : Atom :=
  if text.isEmpty || isNullWord text then .null
  else
    match readBool? text with
    | some b => .bool b
    | none =>
        match readInteger? text with
        | some a => a
        | none =>
            match if isPaddedText text then none else readFloat? text with
            | some x => .number (.float x)
            | none => .text text

end Atom

/-! ### Tags -/

/-- The tags that say what a scalar stands for. -/
inductive ScalarTag where
  | bool
  | int
  | float
  | null
deriving Repr, DecidableEq, Inhabited

namespace ScalarTag

def uri : ScalarTag → String
  | bool => "tag:yaml.org,2002:bool"
  | int => "tag:yaml.org,2002:int"
  | float => "tag:yaml.org,2002:float"
  | null => "tag:yaml.org,2002:null"

def ofUri? (text : String) : Option ScalarTag := [bool, int, float, null].find? fun t => t.uri == text

/-- What a text has to denote under the tag. -/
def expected : ScalarTag → String
  | bool => "a boolean"
  | int => "an integer"
  | float => "a float"
  | null => "null"

/-- What a text stands for under the tag. -/
def read? (t : ScalarTag) (text : String) : Option Atom :=
  match t with
  | bool => (readBool? text).map .bool
  | int => Atom.readInteger? text
  | float => (readFloat? text).map fun x => .number (.float x)
  | null => if isNullWord text then some .null else none

end ScalarTag

end BoxDiagram.Yaml
