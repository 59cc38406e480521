/-
Module: BoxDiagram.Toml.Quoted
Purpose: The quoted texts of TOML, of one line or of several, with escapes or without.
Main exports: isControl, readBasic?, readLiteral?, readLongBasic?, readLongLiteral?, readQuoted?
-/
import BoxDiagram.Text.Digit

namespace BoxDiagram.Toml

/-- A control character other than the tab. -/
def isControl (c : Char) : Bool := (c.toNat < 0x20 && c != '\t') || c.toNat == 0x7F

/-- The character with a number, if it has one that may stand in a text. -/
def scalarOf? (digits : List Char) : Option Char := do
  let n ← Text.readDigits? 16 digits
  if n < 0xD800 || (0xE000 ≤ n && n < 0x110000) then some (Char.ofNat n) else none

/-- The character that an escape of one letter stands for. -/
def shortEscape? : Char → Option Char
  | 'b' => some '\x08'
  | 't' => some '\t'
  | 'n' => some '\n'
  | 'f' => some '\x0c'
  | 'r' => some '\r'
  | 'e' => some '\x1b'
  | '"' => some '"'
  | '\\' => some '\\'
  | _ => none

/-- Number of digits after the letter of an escape with digits. -/
def escapeWidth? : Char → Option Nat
  | 'x' => some 2
  | 'u' => some 4
  | 'U' => some 8
  | _ => none

/-- The character of an escape, and the number of characters that the escape has after its letter. -/
def escape? (letter : Char) (rest : List Char) : Option (Char × Nat) :=
  match escapeWidth? letter with
  | some width =>
      if (rest.take width).length = width then (scalarOf? (rest.take width)).map (·, width) else none
  | none => (shortEscape? letter).map (·, 0)

/-- A text of one line with escapes, after its opening quote, and what follows its closing quote. -/
def readBasic? : List Char → Option (List Char × List Char)
  | [] => none
  | '"' :: rest => some ([], rest)
  | '\\' :: letter :: rest => do
      let (c, width) ← escape? letter rest
      let (cs, after) ← readBasic? (rest.drop width)
      return (c :: cs, after)
  | c :: rest =>
      if isControl c || c == '\\' then none else (readBasic? rest).map fun (cs, after) => (c :: cs, after)
termination_by cs => cs.length
decreasing_by all_goals simp only [List.length_cons, List.length_drop]; omega

/-- A text of one line without escapes, after its opening quote, and what follows its closing quote. -/
def readLiteral? : List Char → Option (List Char × List Char)
  | [] => none
  | '\'' :: rest => some ([], rest)
  | c :: rest => if isControl c then none else (readLiteral? rest).map fun (cs, after) => (c :: cs, after)

/-! ### Texts of several lines -/

/-- Is it a blank of a line, or part of a line end? -/
def isFill (c : Char) : Bool := c == ' ' || c == '\t' || c == '\n' || c == '\r'

/-- Does the line end after blanks at most? -/
def lineIsOver (cs : List Char) : Bool :=
  match cs.dropWhile fun c => c == ' ' || c == '\t' with
  | '\n' :: _ => true
  | '\r' :: '\n' :: _ => true
  | _ => false

/-- May the character stand in a text of several lines?  A carriage return only before a line feed. -/
def isLineChar (c : Char) (rest : List Char) : Bool :=
  !isControl c || c == '\n' || (c == '\r' && rest.head? == some '\n')

/-- The end of a text of several lines, if there is one here: three quotes close the text, and up to two more
quotes before them belong to it. -/
def longEnd? (quote : Char) (cs : List Char) : Option (List Char × List Char) :=
  let run := (cs.takeWhile (· == quote)).length
  if 3 ≤ run then
    let inside := min (run - 3) 2
    some (List.replicate inside quote, cs.drop (inside + 3))
  else none

/-- A text of several lines with escapes, after its opening, and what follows its closing quotes.  A backslash
at the end of a line joins the text with what comes after the blanks and line ends. -/
def readLongBasic? (cs : List Char) : Option (List Char × List Char) :=
  match longEnd? '"' cs with
  | some found => some found
  | none =>
      match cs with
      | [] => none
      | '\\' :: rest =>
          if lineIsOver rest then readLongBasic? (rest.dropWhile isFill)
          else
            match rest with
            | [] => none
            | letter :: rest => do
                let (c, width) ← escape? letter rest
                let (cs, after) ← readLongBasic? (rest.drop width)
                return (c :: cs, after)
      | c :: rest =>
          if isLineChar c rest then (readLongBasic? rest).map fun (cs, after) => (c :: cs, after) else none
termination_by cs.length
decreasing_by
  · have := (List.dropWhile_sublist isFill (l := rest)).length_le
    simp only [List.length_cons]; omega
  all_goals simp only [List.length_cons, List.length_drop]; omega

/-- A text of several lines without escapes, after its opening, and what follows its closing quotes. -/
def readLongLiteral? (cs : List Char) : Option (List Char × List Char) :=
  match longEnd? '\'' cs with
  | some found => some found
  | none =>
      match cs with
      | [] => none
      | c :: rest =>
          if isLineChar c rest then (readLongLiteral? rest).map fun (cs, after) => (c :: cs, after) else none

/-- The text after the opening of a text of several lines; a line end right there does not belong to it. -/
def dropFirstBreak : List Char → List Char
  | '\n' :: rest => rest
  | '\r' :: '\n' :: rest => rest
  | cs => cs

def startsQuoted : List Char → Bool
  | c :: _ => c == '"' || c == '\''
  | [] => false

/-- A quoted text of one line or of several, and what follows it. -/
def readQuoted? : List Char → Option (List Char × List Char)
  | '"' :: '"' :: '"' :: rest => readLongBasic? (dropFirstBreak rest)
  | '\'' :: '\'' :: '\'' :: rest => readLongLiteral? (dropFirstBreak rest)
  | '"' :: rest => readBasic? rest
  | '\'' :: rest => readLiteral? rest
  | _ => none

end BoxDiagram.Toml
