/-
Module: BoxDiagram.Toml.Document
Purpose: Reading a TOML document as the value of its outermost table.
Main exports: readKey?, readValue?, Line, readLine?, readToml?
-/
import BoxDiagram.Toml.Quoted
import BoxDiagram.Toml.Scalar
import BoxDiagram.Toml.Table

namespace BoxDiagram.Toml

/-! ### Blanks, comments and line ends -/

def isBlank (c : Char) : Bool := c == ' ' || c == '\t'

def skipBlanks (cs : List Char) : List Char := cs.dropWhile isBlank

/-- What follows the blanks, line ends and comments. -/
def skipFiller (inComment : Bool) : List Char → Option (List Char)
  | [] => some []
  | '\n' :: rest => skipFiller false rest
  | '\r' :: '\n' :: rest => skipFiller false rest
  | c :: rest =>
      if inComment then if isControl c then none else skipFiller true rest
      else if c = '#' then skipFiller true rest
      else if isBlank c then skipFiller false rest
      else some (c :: rest)

/-- The lines after a line of which only blanks and a comment may be left. -/
def finishLine? (cs : List Char) : Option (List Char) :=
  let ended (rest : List Char) : Option (List Char) :=
    match rest with
    | [] => some []
    | '\n' :: rest => some rest
    | '\r' :: '\n' :: rest => some rest
    | _ => none
  match skipBlanks cs with
  | '#' :: rest => ended (rest.dropWhile fun c => !isControl c)
  | rest => ended rest

/-! ### Keys -/

/-- May the character stand in a key without quotes? -/
def isBareKeyChar (c : Char) : Bool := c.isAlphanum || c == '_' || c == '-'

/-- One part of a key, and what follows it. -/
def readSimpleKey? (cs : List Char) : Option (String × List Char) :=
  match cs with
  | '"' :: rest => (readBasic? rest).map fun (key, after) => (String.ofList key, after)
  | '\'' :: rest => (readLiteral? rest).map fun (key, after) => (String.ofList key, after)
  | _ =>
      let (key, after) := cs.span isBareKeyChar
      if key.isEmpty then none else some (String.ofList key, after)

/-- A key of parts with dots between them: the parts before the last one, the last one, and what follows.
`fuel` bounds the number of parts. -/
def readKey? : Nat → List Char → Option (List String × String × List Char)
  | 0, _ => none
  | fuel + 1, cs => do
      let (key, rest) ← readSimpleKey? (skipBlanks cs)
      match skipBlanks rest with
      | '.' :: rest =>
          let (path, last, rest) ← readKey? fuel rest
          return (key :: path, last, rest)
      | rest => return ([], key, rest)

/-! ### Values -/

/-- How deep arrays and inline tables may be nested. -/
def nestingLimit : Nat := 80

mutual

/-- A value and what follows it.  `depth` bounds the nesting, `fuel` the number of steps. -/
def readValue? (depth : Nat) : Nat → List Char → Option (ConfigValue × List Char)
  | 0, _ => none
  | fuel + 1, cs =>
      match cs with
      | '[' :: rest =>
          match depth with
          | 0 => none
          | depth + 1 => do
              let (items, rest) ← readItems? depth fuel (← skipFiller false rest)
              return (.list items, rest)
      | '\x7b' :: rest =>
          match depth with
          | 0 => none
          | depth + 1 => do
              let (entries, rest) ← readEntries? depth fuel [] (← skipFiller false rest)
              return ((Item.table .dottedKey entries).toValue, rest)
      | _ =>
          if startsQuoted cs then (readQuoted? cs).map fun (text, rest) => (.text (String.ofList text), rest)
          else
            let (word, rest) := spanScalar cs
            (readScalar? word).map (·, rest)

/-- The items of an array up to its end.  A comma may follow the last one. -/
def readItems? (depth : Nat) : Nat → List Char → Option (List ConfigValue × List Char)
  | 0, _ => none
  | _, ']' :: rest => some ([], rest)
  | fuel + 1, cs => do
      let (item, rest) ← readValue? depth fuel cs
      match ← skipFiller false rest with
      | ',' :: rest =>
          let (items, rest) ← readItems? depth fuel (← skipFiller false rest)
          return (item :: items, rest)
      | ']' :: rest => return ([item], rest)
      | _ => none

/-- The entries of an inline table up to its end, added to those before.  A comma may follow the last one. -/
def readEntries? (depth : Nat) : Nat → Entries → List Char → Option (Entries × List Char)
  | 0, _, _ => none
  | _, before, '\x7d' :: rest => some (before, rest)
  | fuel + 1, before, cs => do
      let (path, key, rest) ← readKey? cs.length cs
      let rest ← match ← skipFiller false rest with
        | '=' :: rest => skipFiller false rest
        | _ => none
      let (value, rest) ← readValue? depth fuel rest
      let entries ← addDotted? path key value before
      match ← skipFiller false rest with
      | ',' :: rest => readEntries? depth fuel entries (← skipFiller false rest)
      | '\x7d' :: rest => return (entries, rest)
      | _ => none

end

/-! ### Documents -/

/-- A document that has been read in part: its entries, and the header of the table that is open. -/
structure Progress where
  entries : Entries
  header : List String

/-- Read a header after its opening brackets. -/
def readHeader? (isElement : Bool) (p : Progress) (cs : List Char) : Option (Progress × List Char) := do
  let (path, key, rest) ← readKey? cs.length cs
  let (entries, rest) ←
    match isElement, rest with
    | true, ']' :: ']' :: rest => (openElement? path key p.entries).map (·, rest)
    | false, ']' :: rest => (openTable? path key p.entries).map (·, rest)
    | _, _ => none
  return (⟨entries, path ++ [key]⟩, ← finishLine? rest)

def readEntry? (p : Progress) (cs : List Char) : Option (Progress × List Char) := do
  let (path, key, rest) ← readKey? cs.length cs
  let rest ← readMark? '=' rest
  let (value, rest) ← readValue? nestingLimit (2 * cs.length + 2) (skipBlanks rest)
  return (⟨← addValue? p.header path key value p.entries, p.header⟩, ← finishLine? rest)

/-- Read the lines of a document.  `fuel` bounds their number. -/
def readLines? : Nat → Progress → List Char → Option Entries
  | 0, _, _ => none
  | fuel + 1, p, cs => do
      match ← skipFiller false cs with
      | [] => some p.entries
      | '[' :: '[' :: rest => let (p, rest) ← readHeader? true p rest; readLines? fuel p rest
      | '[' :: rest => let (p, rest) ← readHeader? false p rest; readLines? fuel p rest
      | rest => let (p, rest) ← readEntry? p rest; readLines? fuel p rest

/-- The table that a document stands for, if it is one.  A byte order mark may stand before it. -/
def readToml? (text : String) : Option ConfigValue :=
  let cs := match text.toList with
    | '\ufeff' :: rest => rest
    | cs => cs
  (readLines? (cs.length + 1) ⟨[], []⟩ cs).map fun entries => (Item.table .header entries).toValue

end BoxDiagram.Toml
