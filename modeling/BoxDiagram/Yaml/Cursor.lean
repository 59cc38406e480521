/-
Module: BoxDiagram.Yaml.Cursor
Purpose: A place in a text together with the text after it, and the classes of characters that YAML tells
  apart.
Main exports: Cursor, Cursor.skip, Cursor.skipLine, Cursor.skipWhile, Cursor.takeWhile, isBreak, isWordChar
-/
import BoxDiagram.Text.Digit
import BoxDiagram.Yaml.Fault

namespace BoxDiagram.Yaml

/-! ### Characters -/

def isSpaceOrTab (c : Char) : Bool := c == ' ' || c == '\t'

def isBreak (c : Char) : Bool :=
  c == '\n' || c == '\r' || c == '\u0085' || c == '\u2028' || c == '\u2029'

/-- A letter, a digit, an underscore or a hyphen, of ASCII. -/
def isWordChar (c : Char) : Bool := c.isAlphanum || c == '_' || c == '-'

def endsLine : Option Char → Bool
  | none => true
  | some c => isBreak c

/-- A space, a tab, or the end of a line or of the text. -/
def endsWord : Option Char → Bool
  | none => true
  | some c => isBreak c || isSpaceOrTab c

/-- May the character stand in a text at all? -/
def isAllowed (c : Char) : Bool :=
  let n := c.toNat
  n == 9 || n == 10 || n == 13 || (0x20 ≤ n && n ≤ 0x7E) || n == 0x85 || (0xA0 ≤ n && n ≤ 0xD7FF) ||
    (0xE000 ≤ n && n ≤ 0xFFFD) || 0x10000 ≤ n

/-- Number of bytes before the first character that may not stand in a text. -/
def forbiddenOffset? (text : List Char) : Option Nat :=
  match text.dropWhile isAllowed with
  | [] => none
  | _ :: _ => some ((text.takeWhile isAllowed).foldl (fun n c => n + c.utf8Size) 0)

/-! ### Cursors -/

/-- The rest of a text, and where it begins. -/
structure Cursor where
  rest : List Char
  mark : Mark
deriving Repr, DecidableEq, Inhabited

/-- The place after a character in its line. -/
def Mark.after (m : Mark) (c : Char) : Mark := ⟨m.index + c.utf8Size, m.line, m.column + 1⟩

/-- The place after `bytes` that end a line. -/
def Mark.nextLine (m : Mark) (bytes : Nat) : Mark := ⟨m.index + bytes, m.line + 1, 0⟩

namespace Cursor

/-- The character under the cursor; `none` at the end. -/
def peek (c : Cursor) : Option Char := c.rest.head?

/-- The character `n` places after the cursor. -/
def peekAt (c : Cursor) (n : Nat) : Option Char := c.rest[n]?

/-- Is this the character under the cursor? -/
def sees (c : Cursor) (ch : Char) : Bool := c.peek == some ch

/-- Does the character under the cursor have a property?  The end of the text has none. -/
def seesAny (c : Cursor) (p : Char → Bool) : Bool := c.peek.any p

/-- One character further, in the same line. -/
def skip (c : Cursor) : Cursor :=
  match c.rest with
  | [] => c
  | ch :: rest => ⟨rest, c.mark.after ch⟩

/-- `n` characters further, in the same line. -/
def skipN (c : Cursor) (n : Nat) : Cursor := n.repeat skip c

/-- Behind the line break under the cursor, if there is one.  Carriage return and line feed are one break. -/
def skipLine (c : Cursor) : Cursor :=
  match c.rest with
  | '\r' :: '\n' :: rest => ⟨rest, c.mark.nextLine 2⟩
  | ch :: rest => if isBreak ch then ⟨rest, c.mark.nextLine ch.utf8Size⟩ else c
  | [] => c

/-- What the line break under the cursor contributes to a text: a line feed, except for the two separators of
lines and paragraphs, which stay. -/
def lineBreak (c : Cursor) : List Char :=
  match c.rest with
  | '\u2028' :: _ => ['\u2028']
  | '\u2029' :: _ => ['\u2029']
  | ch :: _ => if isBreak ch then ['\n'] else []
  | [] => []

/-- Skip characters of one line while they have a property. -/
def skipWhile (p : Char → Bool) (c : Cursor) : Cursor := go c.rest c.mark
where
  /-- The same on the parts of the cursor. -/
  go : List Char → Mark → Cursor
    | [], m => ⟨[], m⟩
    | ch :: rest, m => if p ch then go rest (m.after ch) else ⟨ch :: rest, m⟩

/-- The characters that `skipWhile` skips. -/
def takeWhile (p : Char → Bool) (c : Cursor) : List Char := c.rest.takeWhile p

def skipToBreak (c : Cursor) : Cursor := c.skipWhile fun ch => !isBreak ch

def skipComment (c : Cursor) : Cursor := if c.sees '#' then c.skipToBreak else c

/-- Is there `---` or `...` at the beginning of a line, as a word of its own? -/
def seesDocumentIndicator (c : Cursor) : Bool :=
  c.mark.column == 0 &&
    match c.rest with
    | '-' :: '-' :: '-' :: rest => endsWord rest.head?
    | '.' :: '.' :: '.' :: rest => endsWord rest.head?
    | _ => false

end Cursor

end BoxDiagram.Yaml
