/-
Module: BoxDiagram.Number.Reading
Purpose: Reading a decimal numeral as the nearest floating number.
Main exports: Numeral, Numeral.read?, BinaryFormat.ofDecimal, readFloat32?, readFloat64?
-/
import BoxDiagram.Number.Shortest

namespace BoxDiagram

/-- Bits of the number nearest to `digits * 10 ^ exponent`.  Far outside the range of the formats the answer
is zero or infinity, so no power of ten beyond a few hundred is ever formed. -/
def BinaryFormat.ofDecimal (f : BinaryFormat) (digits : Nat) (exponent : Int) : Nat :=
  let magnitude := exponent + decimalLength digits
  if digits == 0 || magnitude < -400 then 0
  else if magnitude > 400 then f.infinityBits
  else f.roundQuotient (digits * powerOfTen exponent.toNat) (powerOfTen (-exponent).toNat)

/-- What a numeral denotes before it is rounded into a format. -/
inductive Numeral where
  | finite (negative : Bool) (digits : Nat) (exponent : Int)
  | infinite (negative : Bool)
  | notANumber
deriving Repr, DecidableEq

def digitsValue (cs : List Char) : Nat :=
  cs.foldl (fun n c => n * 10 + (c.toNat - '0'.toNat)) 0

/-- Split off the leading decimal digits. -/
def spanDigits (cs : List Char) : List Char × List Char :=
  (cs.takeWhile Char.isDigit, cs.dropWhile Char.isDigit)

/-- Split off a leading sign; `true` is minus. -/
def spanSign : List Char → Bool × List Char
  | '-' :: rest => (true, rest)
  | '+' :: rest => (false, rest)
  | cs => (false, cs)

namespace Numeral

/-- The optional exponent part at the end of a numeral: nothing, or `e`, a sign and digits. -/
def readExponent? : List Char → Option Int
  | [] => some 0
  | 'e' :: rest | 'E' :: rest =>
      let (negative, rest) := spanSign rest
      match spanDigits rest with
      | ([], _) => none
      | (digits, []) =>
          let value : Int := digitsValue digits
          some (if negative then -value else value)
      | (_, _ :: _) => none
  | _ => none

/-- The unsigned part of a numeral: digits with an optional point and exponent, at least one digit before or
after the point. -/
def readUnsigned? (negative : Bool) (cs : List Char) : Option Numeral :=
  let (whole, rest) := spanDigits cs
  let (fraction, rest) :=
    match rest with
    | '.' :: rest => spanDigits rest
    | rest => ([], rest)
  if whole.isEmpty && fraction.isEmpty then none
  else
    (readExponent? rest).map fun exponent =>
      .finite negative (digitsValue (whole ++ fraction)) (exponent - fraction.length)

/-- Read a whole text as a numeral.  `inf`, `infinity` and `nan` count, in any case and with a sign; blanks,
digit separators and other bases do not. -/
def read? (text : String) : Option Numeral :=
  let (negative, rest) := spanSign text.toList
  match String.ofList (rest.map Char.toLower) with
  | "inf" | "infinity" => some (.infinite negative)
  | "nan" => some .notANumber
  | _ => readUnsigned? negative rest

/-- Bits of the numeral in a format; `signBit` is the pattern of the sign alone. -/
def toBits (f : BinaryFormat) (signBit : Nat) : Numeral → Nat
  | .finite negative digits exponent =>
      f.ofDecimal digits exponent + (if negative then signBit else 0)
  | .infinite negative => f.infinityBits + (if negative then signBit else 0)
  | .notANumber => f.infinityBits + powerOfTwo (f.precision - 2)

def toFloat32 (n : Numeral) : Float32 :=
  Float32.ofBits (UInt32.ofNat (n.toBits binary32 0x80000000))

def toFloat (n : Numeral) : Float :=
  Float.ofBits (UInt64.ofNat (n.toBits binary64 0x8000000000000000))

end Numeral

/-- Read a text as a 32-bit floating number. -/
def readFloat32? (text : String) : Option Float32 :=
  (Numeral.read? text).map Numeral.toFloat32

/-- Read a text as a 64-bit floating number. -/
def readFloat64? (text : String) : Option Float :=
  (Numeral.read? text).map Numeral.toFloat

end BoxDiagram
