/-
Module: BoxDiagram.Xml.Cursor
Purpose: A place in an XML text together with the text after it, the classes of characters of XML, and the
  reading of names and references.
Main exports: Cursor, Cursor.skipSpaces, Cursor.takeChars, Cursor.expect, Cursor.readName, Cursor.readQName,
  resolveReferences
-/
import BoxDiagram.Number.Reading
import BoxDiagram.Text.Digit
import BoxDiagram.Xml.Fault

namespace BoxDiagram.Xml

/-! ### Characters -/

/-- Is the number in one of the ranges? -/
def inRanges (ranges : List (Nat × Nat)) (n : Nat) : Bool := ranges.any fun (low, high) => low ≤ n && n ≤ high

/-- May the character stand in a document? -/
def isXmlChar (c : Char) : Bool :=
  inRanges [(0x9, 0xA), (0xD, 0xD), (0x20, 0xD7FF), (0xE000, 0xFFFD), (0x10000, 0x10FFFF)] c.toNat

def isXmlSpace (c : Char) : Bool := c == ' ' || c == '\t' || c == '\n' || c == '\r'

/-- May a name begin with the character? -/
def isNameStart (c : Char) : Bool :=
  c.isAlpha || c == ':' || c == '_' ||
    inRanges [(0xC0, 0xD6), (0xD8, 0xF6), (0xF8, 0x2FF), (0x370, 0x37D), (0x37F, 0x1FFF), (0x200C, 0x200D),
      (0x2070, 0x218F), (0x2C00, 0x2FEF), (0x3001, 0xD7FF), (0xF900, 0xFDCF), (0xFDF0, 0xFFFD),
      (0x10000, 0xEFFFF)] c.toNat

def isNameChar (c : Char) : Bool :=
  isNameStart c || c.isDigit || c == '-' || c == '.' ||
    inRanges [(0xB7, 0xB7), (0x300, 0x36F), (0x203F, 0x2040)] c.toNat

/-- The character whose number is the first byte of a character in UTF-8; messages show that one. -/
def leadingByte (c : Char) : Char :=
  let n := c.toNat
  if n < 0x80 then c
  else if n < 0x800 then Char.ofNat (0xC0 + n / 0x40)
  else if n < 0x10000 then Char.ofNat (0xE0 + n / 0x1000)
  else Char.ofNat (0xF0 + n / 0x40000)

/-! ### Cursors -/

/-- The rest of a text and its place. -/
structure Cursor where
  rest : List Char
  place : Place
deriving Repr, Inhabited

namespace Cursor

def start (text : String) : Cursor := ⟨text.toList, ⟨1, 1⟩⟩

def after (p : Place) (c : Char) : Place := if c = '\n' then ⟨p.row + 1, 1⟩ else ⟨p.row, p.column + 1⟩

/-- Go over characters that are known to stand here. -/
def skip (cur : Cursor) (count : Nat) : Cursor :=
  ⟨cur.rest.drop count, (cur.rest.take count).foldl after cur.place⟩

def sees (cur : Cursor) (text : String) : Bool := text.toList.isPrefixOf cur.rest

def skipSpaces (cur : Cursor) : Cursor := cur.skip (cur.rest.takeWhile isXmlSpace).length

/-- Take the characters up to where `stop` holds of the rest of the text.  All of them have to be characters of
XML, and so has the one at the end. -/
def takeFrom (stop : List Char → Bool) (place : Place) : List Char → Except XmlFault (List Char × Cursor)
  | [] => .ok ([], ⟨[], place⟩)
  | c :: rest =>
      if !isXmlChar c then .error (.forbiddenChar c place)
      else if stop (c :: rest) then .ok ([], ⟨c :: rest, place⟩)
      else do
        let (cs, cur) ← takeFrom stop (after place c) rest
        return (c :: cs, cur)

/-- Take characters from a cursor up to where `stop` holds. -/
def takeChars (cur : Cursor) (stop : List Char → Bool) : Except XmlFault (List Char × Cursor) :=
  takeFrom stop cur.place cur.rest

/-- Go over one character, which has to be this one. -/
def expect (cur : Cursor) (c : Char) : Except XmlFault Cursor :=
  match cur.rest with
  | [] => .error .endOfText
  | found :: _ =>
      if found = c then .ok (cur.skip 1) else .error (.wrongChar c (leadingByte found) cur.place)

/-- Go over a text, which has to stand here. -/
def expectText (cur : Cursor) (text : String) : Except XmlFault Cursor :=
  if cur.sees text then .ok (cur.skip text.length) else .error (.missingText text cur.place)

def readName (cur : Cursor) : Except XmlFault (String × Cursor) :=
  let name := cur.rest.takeWhile isNameChar
  match name with
  | [] => .error (.badName cur.place)
  | c :: _ =>
      if isNameStart c then .ok (String.ofList name, cur.skip name.length) else .error (.badName cur.place)

end Cursor

/-- A name with an optional namespace before a colon. -/
structure QName where
  space : String
  base : String
deriving Repr, DecidableEq, Inhabited

def QName.text (n : QName) : String := if n.space = "" then n.base else n.space ++ ":" ++ n.base

/-- May a part of a name with a colon begin like this? -/
def startsPart : List Char → Bool
  | c :: _ => isNameStart c && c != ':'
  | [] => false

/-- Take a name with at most one colon. -/
def Cursor.readQName (cur : Cursor) : Except XmlFault (QName × Cursor) :=
  let isPart (c : Char) : Bool := isNameChar c && c != ':'
  let (first, rest) := cur.rest.span isPart
  match rest with
  | ':' :: rest =>
      let second := rest.takeWhile isPart
      let length := first.length + 1 + second.length
      if (!first.isEmpty && !startsPart first) || !startsPart second then .error (.badName cur.place)
      else if (cur.rest.drop length).head? = some ':' then .error (.badName (cur.skip length).place)
      else .ok (⟨String.ofList first, String.ofList second⟩, cur.skip length)
  | _ =>
      if startsPart first then .ok (⟨"", String.ofList first⟩, cur.skip first.length)
      else .error (.badName cur.place)

/-! ### References -/

/-- The character of a named reference. -/
def namedChar? : String → Option Char
  | "quot" => some '"'
  | "amp" => some '&'
  | "apos" => some '\''
  | "lt" => some '<'
  | "gt" => some '>'
  | _ => none

/-- The character of a reference by number. -/
def numberedChar? (digits : List Char) : Option Char := do
  let n ← match digits with
    | 'x' :: hex => Text.readDigits? 16 hex
    | decimal => Text.readDigits? 10 decimal
  if n < powerOfTwo 32 then
    let c := if n < 0xD800 || (0xE000 ≤ n && n < 0x110000) then Char.ofNat n else '\ufffd'
    if isXmlChar c then some c else none
  else none

/-- The character of the reference between an ampersand and a semicolon. -/
def referencedChar (body : List Char) (place : Place) : Except XmlFault Char :=
  match body with
  | '#' :: digits =>
      match numberedChar? digits with
      | some c => .ok c
      | none => .error (.badReference place)
  | c :: rest =>
      if isNameStart c && rest.all isNameChar then
        match namedChar? (String.ofList body) with
        | some c => .ok c
        | none => .error (.unknownEntity (String.ofList body) place)
      else .error (.badReference place)
  | [] => .error (.badReference place)

/-- A text with the characters its references stand for.  `place` is the place of the text. -/
def resolveReferences (place : Place) (cs : List Char) : Except XmlFault (List Char) :=
  match cs with
  | [] => .ok []
  | '&' :: rest =>
      let body := rest.takeWhile (· != ';')
      match _h : rest.drop body.length with
      | [] => .error (.badReference place)
      | semicolon :: rest => do
          let c ← referencedChar body place
          let cs ← resolveReferences (('&' :: body ++ [semicolon]).foldl Cursor.after place) rest
          return c :: cs
  | c :: rest => (resolveReferences (Cursor.after place c) rest).map (c :: ·)
termination_by cs.length
decreasing_by
  · have h := congrArg List.length _h
    simp only [List.length_drop, List.length_cons] at h
    simp only [List.length_cons]
    omega
  · simp only [List.length_cons]; omega

end BoxDiagram.Xml
