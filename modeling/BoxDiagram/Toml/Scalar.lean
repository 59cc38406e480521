/-
Module: BoxDiagram.Toml.Scalar
Purpose: The values of TOML that are written without quotes: truth values, numbers, dates and times.
Main exports: readGroups?, readInteger?, readReal?, readMoment?, readScalar?
-/
import BoxDiagram.Config.Value
import BoxDiagram.Number.Reading
import BoxDiagram.Text.Digit
import BoxDiagram.Text.Split

namespace BoxDiagram.Toml

/-! ### Numbers -/

/-- Groups of digits with single underscores between them, as one run of digits. -/
def readGroups? (isDigit : Char → Bool) (cs : List Char) : Option (List Char) :=
  let groups := Text.splitList '_' cs
  if groups.all fun g => !g.isEmpty && g.all isDigit then some groups.flatten else none

/-- Decimal digits that do not start with a needless zero. -/
def readWhole? (cs : List Char) : Option (List Char) :=
  match readGroups? Char.isDigit cs with
  | some ['0'] => some ['0']
  | some ('0' :: _) => none
  | other => other

/-- A whole number in a base, within 128 bits. -/
def readBase? (base : Nat) (cs : List Char) : Option Int := do
  let n ← Text.readDigits? base (← readGroups? (Text.digit? · |>.isSome) cs)
  if n < powerOfTwo 128 then some (n : Int) else none

/-- A whole number: decimal with an optional sign, or `0x`, `0o`, `0b` and digits of that base. -/
def readInteger? : List Char → Option Int
  | '0' :: 'x' :: rest => readBase? 16 rest
  | '0' :: 'o' :: rest => readBase? 8 rest
  | '0' :: 'b' :: rest => readBase? 2 rest
  | cs => do
      let (negative, rest) := spanSign cs
      let n := digitsValue (← readWhole? rest)
      if negative then if n ≤ powerOfTwo 127 then some (-(n : Int)) else none
      else if n < powerOfTwo 128 then some (n : Int)
      else none

/-- The part after the letter of an exponent. -/
def readPower? (cs : List Char) : Option Int := do
  let (negative, rest) := spanSign cs
  let n : Int := digitsValue (← readGroups? Char.isDigit rest)
  return if negative then -n else n

/-- The part of a number before the exponent: digits, and after a point further digits. -/
def readMantissa? (cs : List Char) : Option (List Char × List Char) :=
  match Text.splitFirstList? '.' cs with
  | none => (readWhole? cs).map (·, [])
  | some (whole, fraction) => do return (← readWhole? whole, ← readGroups? Char.isDigit fraction)

/-- A number with a point, an exponent or both, or `inf` or `nan`; all with an optional sign.  A number too
large for 64 bits is refused. -/
def readReal? (cs : List Char) : Option Float := do
  let (negative, rest) := spanSign cs
  if rest = ['i', 'n', 'f'] then some (Numeral.infinite negative).toFloat
  else if rest = ['n', 'a', 'n'] then some Numeral.notANumber.toFloat
  else
    let (mantissa, power) := rest.span fun c => c != 'e' && c != 'E'
    let (whole, fraction) ← readMantissa? mantissa
    let exponent ← match power with
      | [] => if fraction.isEmpty then none else some 0
      | _ :: power => readPower? power
    let value := (Numeral.finite negative (digitsValue (whole ++ fraction)) (exponent - fraction.length)).toFloat
    if value.isInf then none else some value

/-! ### Dates and times -/

/-- Exactly `count` decimal digits with a value in a range, and the rest. -/
def readField? (count least most : Nat) (cs : List Char) : Option (Nat × List Char) :=
  let digits := cs.take count
  let n := digitsValue digits
  if digits.length = count && digits.all Char.isDigit && decide (least ≤ n) && decide (n ≤ most) then
    some (n, cs.drop count)
  else none

def readMark? (mark : Char) : List Char → Option (List Char)
  | c :: rest => if c = mark then some rest else none
  | [] => none

def daysInMonth (year month : Nat) : Nat :=
  if month = 2 then if year % 4 = 0 && (year % 100 != 0 || year % 400 = 0) then 29 else 28
  else if month ∈ [4, 6, 9, 11] then 30
  else 31

def readDate? (cs : List Char) : Option (List Char) := do
  let (year, cs) ← readField? 4 0 9999 cs
  let (month, cs) ← readField? 2 1 12 (← readMark? '-' cs)
  let (_, cs) ← readField? 2 1 (daysInMonth year month) (← readMark? '-' cs)
  return cs

/-- The seconds of a time with an optional fraction, and the rest; they may be missing. -/
def readSeconds? : List Char → Option (List Char)
  | ':' :: cs => do
      let (_, cs) ← readField? 2 0 60 cs
      match cs with
      | '.' :: cs => if (cs.takeWhile Char.isDigit).isEmpty then none else some (cs.dropWhile Char.isDigit)
      | cs => some cs
  | cs => some cs

def readTime? (cs : List Char) : Option (List Char) := do
  let (_, cs) ← readField? 2 0 23 cs
  let (_, cs) ← readField? 2 0 59 (← readMark? ':' cs)
  readSeconds? cs

/-- Is this the distance of a clock from universal time, or nothing? -/
def isOffset : List Char → Bool
  | [] | ['Z'] | ['z'] => true
  | sign :: cs =>
      (sign == '+' || sign == '-') &&
        ((do
          let (_, cs) ← readField? 2 0 23 cs
          let (_, cs) ← readField? 2 0 59 (← readMark? ':' cs)
          return cs.isEmpty).getD false)

/-- Does the character stand between a date and a time? -/
def isDateTimeMark (c : Char) : Bool := c == 'T' || c == 't' || c == ' '

def isMoment (cs : List Char) : Bool :=
  match readDate? cs with
  | some [] => true
  | some (mark :: time) => isDateTimeMark mark && (readTime? time).any isOffset
  | none => (readTime? cs).any List.isEmpty

/-- The key under which a date or time stands in a table of its own. -/
def momentKey : String := "$__toml_private_datetime"

/-- A date or time.  It is a table with one reserved key. -/
def readMoment? (cs : List Char) : Option ConfigValue :=
  if isMoment cs then
    let text := cs.map fun c => if isDateTimeMark c then 'T' else c.toUpper
    some (.table [(momentKey, .text (String.ofList text))])
  else none

/-! ### All values without quotes -/

/-- The value of a text without quotes. -/
def readScalar? (cs : List Char) : Option ConfigValue :=
  if cs = ['t', 'r', 'u', 'e'] then some (.truth true)
  else if cs = ['f', 'a', 'l', 's', 'e'] then some (.truth false)
  else
    ((readInteger? cs).map .integer).or
      (((readReal? cs).map .real).or (readMoment? cs))

/-- Does the character end a text without quotes? -/
def endsScalar (c : Char) : Bool := c ∈ [' ', '\t', '\n', '\r', ',', ']', '\x7d', '#', '=', '[', '\x7b', '"', '\'']

def timeFollows : List Char → Bool
  | ' ' :: a :: b :: ':' :: _ => a.isDigit && b.isDigit
  | _ => false

/-- Split off the text of a value without quotes.  A date takes a time after a space with it. -/
def spanScalar (cs : List Char) : List Char × List Char :=
  let (word, rest) := cs.span (!endsScalar ·)
  if readDate? word = some [] && timeFollows rest then
    let (time, rest) := (rest.drop 1).span (!endsScalar ·)
    (word ++ ' ' :: time, rest)
  else (word, rest)

end BoxDiagram.Toml
