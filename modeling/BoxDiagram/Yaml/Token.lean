/-
Module: BoxDiagram.Yaml.Token
Purpose: The tokens of YAML, and reading those that are longer than a character: scalars, anchors, tags and
  directives.
Main exports: ScalarStyle, TokenKind, Token, readBlockScalar, readQuotedScalar, readPlainScalar, readAnchor,
  readTag, readDirective
-/
import BoxDiagram.Number.Power
import BoxDiagram.Yaml.Cursor

namespace BoxDiagram.Yaml

/-- How a scalar is written. -/
inductive ScalarStyle where
  | plain
  | singleQuoted
  | doubleQuoted
  | literal
  | folded
deriving Repr, DecidableEq, Inhabited

/-- The kinds of tokens.  Block starts, block ends and keys may come from indentation and from a colon that
follows later, so they need not take up any characters. -/
inductive TokenKind where
  | streamStart
  | streamEnd
  | versionDirective (major minor : Nat)
  | tagDirective (handle uri : String)
  | documentStart
  | documentEnd
  | blockSequenceStart
  | blockMappingStart
  | blockEnd
  | flowSequenceStart
  | flowSequenceEnd
  | flowMappingStart
  | flowMappingEnd
  | blockEntry
  | flowEntry
  | key
  | value
  | reference (name : String)
  | anchor (name : String)
  | tag (handle uri : String)
  | scalar (text : String) (style : ScalarStyle)
deriving Repr, DecidableEq, Inhabited

/-- A token with the places where it starts and stops. -/
structure Token where
  kind : TokenKind
  start : Mark
  stop : Mark
deriving Repr, DecidableEq, Inhabited

/-- Something that a fault in the text can prevent.  Readers answer with a value and the cursor behind it. -/
abbrev Fallible := Except SourceFault

/-! ### Text across lines -/

/-- Text that is being put together, newest characters first, with the white space that came since. -/
structure Gathered where
  text : List Char
  blanks : List Char
  firstBreak : List Char
  moreBreaks : List Char
deriving Repr, DecidableEq, Inhabited

namespace Gathered

def empty : Gathered := ⟨[], [], [], []⟩

def add (g : Gathered) (cs : List Char) : Gathered := { g with text := cs.reverse ++ g.text }

/-- Add the line breaks since the text, folded: one line feed becomes a space, and of several the first one is
dropped. -/
def addFolded (g : Gathered) : Gathered :=
  let joint :=
    if g.firstBreak.head? == some '\n' then
      if g.moreBreaks.isEmpty then [' '] else g.moreBreaks
    else g.firstBreak ++ g.moreBreaks
  { (g.add joint) with firstBreak := [], moreBreaks := [] }

def addBlanks (g : Gathered) : Gathered := { (g.add g.blanks) with blanks := [] }

/-- Take in a line break.  Blanks before it are dropped. -/
def takeBreak (g : Gathered) (isFirst : Bool) (cs : List Char) : Gathered :=
  if isFirst then { g with blanks := [], firstBreak := cs }
  else { g with moreBreaks := g.moreBreaks ++ cs }

def toText (g : Gathered) : String := String.ofList g.text.reverse

end Gathered

/-! ### Block scalars -/

/-- What becomes of the line breaks at the end of a block scalar. -/
inductive Chomping where
  | strip
  | clip
  | keep
deriving Repr, DecidableEq, Inhabited

/-- A chomping indicator, if there is one. -/
def readChomping (c : Cursor) : Option Chomping × Cursor :=
  if c.sees '+' then (some .keep, c.skip)
  else if c.sees '-' then (some .strip, c.skip)
  else (none, c)

/-- An indentation indicator, if there is one. -/
def readIndentation (start : Mark) (c : Cursor) : Fallible (Nat × Cursor) :=
  match c.peek with
  | some d =>
      if d.isDigit then
        if d == '0' then .error (.within .blockScalar start .zeroIndentation c.mark)
        else .ok (d.toNat - '0'.toNat, c.skip)
      else .ok (0, c)
  | none => .ok (0, c)

/-- The indicators after `|` or `>`, in any order. -/
def readBlockHeader (start : Mark) (c : Cursor) : Fallible ((Chomping × Nat) × Cursor) := do
  match readChomping c with
  | (some chomping, c) =>
      let (increment, c) ← readIndentation start c
      return ((chomping, increment), c)
  | (none, c) =>
      let (increment, c) ← readIndentation start c
      if increment == 0 then return ((.clip, 0), c)
      let (chomping, c) := readChomping c
      return ((chomping.getD .clip, increment), c)

/-- Indentation and empty lines before a line of a block scalar. -/
structure BlockGap where
  /-- The line breaks, newest last. -/
  breaks : List Char
  /-- The largest column that indentation reached. -/
  widest : Nat
  /-- The place behind the last line break. -/
  stop : Mark
deriving Repr, DecidableEq, Inhabited

/-- Skip indentation up to column `indent`, or any indentation if it is zero, and empty lines. -/
def readBlockGap (start : Mark) (indent : Nat) : Nat → Cursor → BlockGap → Fallible (BlockGap × Cursor)
  | 0, c, gap => .ok (gap, c)
  | fuel + 1, c, gap =>
      let spaces := (c.rest.takeWhile (· == ' ')).length
      let c := c.skipN (if indent == 0 then spaces else min spaces (indent - c.mark.column))
      let gap := { gap with widest := max gap.widest c.mark.column }
      if (indent == 0 || c.mark.column < indent) && c.sees '\t' then
        .error (.within .blockScalar start .tabAsIndentation c.mark)
      else if c.seesAny isBreak then
        let next := c.skipLine
        readBlockGap start indent fuel next { gap with breaks := gap.breaks ++ c.lineBreak, stop := next.mark }
      else .ok (gap, c)

def skipBlockGap (start : Mark) (indent : Nat) (c : Cursor) : Fallible (BlockGap × Cursor) :=
  readBlockGap start indent (c.rest.length + 1) c ⟨[], 0, c.mark⟩

/-- Add a line of a block scalar.  In a folded scalar a line feed between two lines that begin with no blank
becomes a space, or is dropped before empty lines. -/
def addBlockLine (literal blankBefore blank : Bool) (g : Gathered) (line : List Char) : Gathered :=
  let joint :=
    if !literal && g.firstBreak.head? == some '\n' && !blankBefore && !blank then
      if g.moreBreaks.isEmpty then [' '] else []
    else g.firstBreak
  { (g.add (joint ++ g.moreBreaks ++ line)) with firstBreak := [], moreBreaks := [] }

/-- The lines of a block scalar that are indented by `indent`. -/
def readBlockLines (start : Mark) (literal : Bool) (indent : Nat) :
    Nat → Bool → Cursor → Gathered → Mark → Fallible ((Gathered × Mark) × Cursor)
  | 0, _, c, g, stop => .ok ((g, stop), c)
  | fuel + 1, blankBefore, c, g, stop =>
      if c.mark.column != indent || c.rest.isEmpty then .ok ((g, stop), c)
      else do
        let blank := c.seesAny isSpaceOrTab
        let line := c.takeWhile fun ch => !isBreak ch
        let g := addBlockLine literal blankBefore blank g line
        let c := c.skipToBreak
        let g := { g with firstBreak := c.lineBreak }
        let (gap, c) ← skipBlockGap start indent c.skipLine
        readBlockLines start literal indent fuel blank c { g with moreBreaks := gap.breaks } gap.stop

/-- A block scalar inside a block that is indented by `outer`; the cursor is on its indicator. -/
def readBlockScalar (outer : Int) (literal : Bool) (c : Cursor) : Fallible (Token × Cursor) := do
  let start := c.mark
  let ((chomping, increment), c) ← readBlockHeader start c.skip
  let c := (c.skipWhile isSpaceOrTab).skipComment
  if !endsLine c.peek then throw (.within .blockScalar start .scalarTail c.mark)
  let c := c.skipLine
  let indent := if increment == 0 then 0 else (max outer 0).toNat + increment
  let (gap, c) ← skipBlockGap start indent c
  let indent := if indent == 0 then max (max gap.widest (outer + 1).toNat) 1 else indent
  let ((g, stop), c) ←
    readBlockLines start literal indent (c.rest.length + 1) false c { Gathered.empty with moreBreaks := gap.breaks }
      gap.stop
  let tail := match chomping with
    | .strip => []
    | .clip => g.firstBreak
    | .keep => g.firstBreak ++ g.moreBreaks
  return (⟨.scalar (g.add tail).toText (if literal then .literal else .folded), start, stop⟩, c)

/-! ### Quoted scalars -/

/-- The character of an escape sequence without digits. -/
def simpleEscape? : Char → Option Char
  | '0' => some '\x00'
  | 'a' => some '\x07'
  | 'b' => some '\x08'
  | 't' | '\t' => some '\t'
  | 'n' => some '\n'
  | 'v' => some '\x0b'
  | 'f' => some '\x0c'
  | 'r' => some '\r'
  | 'e' => some '\x1b'
  | ' ' => some ' '
  | '"' => some '"'
  | '/' => some '/'
  | '\\' => some '\\'
  | 'N' => some '\u0085'
  | '_' => some '\u00a0'
  | 'L' => some '\u2028'
  | 'P' => some '\u2029'
  | _ => none

/-- Number of hexadecimal digits after an escape character. -/
def escapeDigits? : Char → Option Nat
  | 'x' => some 2
  | 'u' => some 4
  | 'U' => some 8
  | _ => none

/-- The character of the escape sequence under the cursor. -/
def readEscape (start : Mark) (c : Cursor) : Fallible (Char × Cursor) :=
  let fault (p : Problem) (m : Mark) : SourceFault := .within .quotedEscape start p m
  match c.peekAt 1 with
  | none => .error (fault .unknownEscape c.mark)
  | some e =>
      match simpleEscape? e, escapeDigits? e with
      | some ch, _ => .ok (ch, c.skipN 2)
      | none, none => .error (fault .unknownEscape c.mark)
      | none, some count =>
          let c := c.skipN 2
          let digits := c.rest.take count
          match Text.readDigits? 16 digits, digits.length == count with
          | some n, true =>
              if h : n.isValidChar then .ok (Char.ofNatAux n h, c.skipN count)
              else .error (fault .invalidCodePoint c.mark)
          | _, _ => .error (fault .notHexadecimal c.mark)

/-- Where a run of characters without blanks in a quoted scalar stops. -/
inductive QuotedStop where
  /-- At the quote, a blank or a line break. -/
  | plain
  /-- Behind an escaped line break. -/
  | escapedBreak
deriving Repr, DecidableEq, Inhabited

/-- Characters of a quoted scalar up to the quote, a blank or a line break. -/
def readQuotedRun (start : Mark) (single : Bool) : Nat → Cursor → Gathered → Fallible ((Gathered × QuotedStop) × Cursor)
  | 0, c, g => .ok ((g, .plain), c)
  | fuel + 1, c, g =>
      match c.peek with
      | none => .ok ((g, .plain), c)
      | some ch =>
          if isBreak ch || isSpaceOrTab ch then .ok ((g, .plain), c)
          else if single && ch == '\'' && c.peekAt 1 == some '\'' then
            readQuotedRun start single fuel (c.skipN 2) (g.add ['\''])
          else if ch == (if single then '\'' else '"') then .ok ((g, .plain), c)
          else if !single && ch == '\\' then
            if (c.peekAt 1).any isBreak then .ok ((g, .escapedBreak), c.skip.skipLine)
            else do
              let (e, c) ← readEscape start c
              readQuotedRun start single fuel c (g.add [e])
          else readQuotedRun start single fuel c.skip (g.add [ch])

/-- Blanks and line breaks in a quoted scalar.  The flag says whether a line break came already; blanks after
one are dropped. -/
def readQuotedGap : Nat → Bool → Cursor → Gathered → Bool × Gathered × Cursor
  | 0, broken, c, g => (broken, g, c)
  | fuel + 1, broken, c, g =>
      match c.peek with
      | none => (broken, g, c)
      | some ch =>
          if isSpaceOrTab ch then
            readQuotedGap fuel broken c.skip (if broken then g else { g with blanks := g.blanks ++ [ch] })
          else if isBreak ch then readQuotedGap fuel true c.skipLine (g.takeBreak (!broken) c.lineBreak)
          else (broken, g, c)

/-- The inside of a quoted scalar; the cursor ends up on the closing quote. -/
def readQuotedText (start : Mark) (single : Bool) : Nat → Cursor → Gathered → Fallible (Gathered × Cursor)
  | 0, c, _ => .error (.within .quotedScalar start .endOfStream c.mark)
  | fuel + 1, c, g => do
      if c.seesDocumentIndicator then throw (.within .quotedScalar start .documentIndicator c.mark)
      if c.rest.isEmpty then throw (.within .quotedScalar start .endOfStream c.mark)
      let ((g, stop), c) ← readQuotedRun start single (c.rest.length + 1) c g
      if c.sees (if single then '\'' else '"') then return (g, c)
      let (broken, g, c) := readQuotedGap (c.rest.length + 1) (stop == .escapedBreak) c g
      readQuotedText start single fuel c (if broken then g.addFolded else g.addBlanks)

/-- A quoted scalar; the cursor is on its opening quote. -/
def readQuotedScalar (single : Bool) (c : Cursor) : Fallible (Token × Cursor) := do
  let start := c.mark
  let (g, c) ← readQuotedText start single (c.rest.length + 1) c.skip Gathered.empty
  let c := c.skip
  return (⟨.scalar g.toText (if single then .singleQuoted else .doubleQuoted), start, c.mark⟩, c)

/-! ### Plain scalars -/

/-- The characters that end a plain scalar inside brackets and braces. -/
def isFlowIndicator (c : Char) : Bool := c == ',' || c == '[' || c == ']' || c == '{' || c == '}'

/-- A plain scalar in the making: its text, whether a line break came since, and the end of the text. -/
structure PlainState where
  gathered : Gathered
  broken : Bool
  stop : Mark
deriving Repr, DecidableEq, Inhabited

/-- Add a character, and the white space before it. -/
def PlainState.addChar (s : PlainState) (ch : Char) (stop : Mark) : PlainState :=
  let g := if s.broken then s.gathered.addFolded else s.gathered.addBlanks
  ⟨g.add [ch], false, stop⟩

/-- Characters of a plain scalar up to white space or an indicator. -/
def readPlainRun (start : Mark) (inFlow : Bool) : Nat → Cursor → PlainState → Fallible (PlainState × Cursor)
  | 0, c, s => .ok (s, c)
  | fuel + 1, c, s =>
      match c.peek with
      | none => .ok (s, c)
      | some ch =>
          if isBreak ch || isSpaceOrTab ch then .ok (s, c)
          else if inFlow && ch == ':' && (c.peekAt 1).any (fun d => isFlowIndicator d || d == '?') then
            .error (.within .plainScalar start .plainColon c.mark)
          else if (ch == ':' && endsWord (c.peekAt 1)) || (inFlow && isFlowIndicator ch) then .ok (s, c)
          else readPlainRun start inFlow fuel c.skip (s.addChar ch c.skip.mark)

/-- White space in a plain scalar.  A tab may not stand where indentation is expected. -/
def readPlainGap (start : Mark) (indent : Nat) : Nat → Cursor → PlainState → Fallible (PlainState × Cursor)
  | 0, c, s => .ok (s, c)
  | fuel + 1, c, s =>
      match c.peek with
      | none => .ok (s, c)
      | some ch =>
          if isSpaceOrTab ch then
            if s.broken && c.mark.column < indent && ch == '\t' then
              .error (.within .plainScalar start .tabInIndentation c.mark)
            else
              readPlainGap start indent fuel c.skip
                (if s.broken then s
                  else { s with gathered := { s.gathered with blanks := s.gathered.blanks ++ [ch] } })
          else if isBreak ch then
            readPlainGap start indent fuel c.skipLine
              { s with gathered := s.gathered.takeBreak (!s.broken) c.lineBreak, broken := true }
          else .ok (s, c)

/-- The text of a plain scalar, over as many lines as are indented by `indent`. -/
def readPlainText (start : Mark) (inFlow : Bool) (indent : Nat) : Nat → Cursor → PlainState → Fallible (PlainState × Cursor)
  | 0, c, s => .ok (s, c)
  | fuel + 1, c, s => do
      if c.seesDocumentIndicator || c.sees '#' then return (s, c)
      let (s, c) ← readPlainRun start inFlow (c.rest.length + 1) c s
      if !c.seesAny (fun ch => isBreak ch || isSpaceOrTab ch) then return (s, c)
      let (s, c) ← readPlainGap start indent (c.rest.length + 1) c s
      if !inFlow && c.mark.column < indent then return (s, c)
      readPlainText start inFlow indent fuel c s

/-- A plain scalar in a block that is indented by `outer`.  The flag says whether the scalar stopped after a
line break. -/
def readPlainScalar (outer : Int) (inFlow : Bool) (c : Cursor) : Fallible ((Token × Bool) × Cursor) := do
  let start := c.mark
  let (s, c) ←
    readPlainText start inFlow (outer + 1).toNat (c.rest.length + 1) c ⟨Gathered.empty, false, start⟩
  return ((⟨.scalar s.gathered.toText .plain, start, s.stop⟩, s.broken), c)

/-! ### Anchors and tags -/

/-- An anchor or an alias; the cursor is on its indicator. -/
def readAnchor (isAlias : Bool) (c : Cursor) : Fallible (Token × Cursor) :=
  let start := c.mark
  let name := c.skip.takeWhile isWordChar
  let c := c.skip.skipWhile isWordChar
  let ended := endsWord c.peek ||
    c.seesAny fun ch => ch == '?' || ch == ':' || ch == ',' || ch == ']' || ch == '}' || ch == '%' ||
      ch == '@' || ch == '\x60'
  if name.isEmpty || !ended then
    .error (.within (if isAlias then .reference else .anchor) start .anchorName c.mark)
  else
    let name := String.ofList name
    .ok (⟨if isAlias then .reference name else .anchor name, start, c.mark⟩, c)

/-- A tag handle: `!`, or `!` and word characters and maybe another `!`. -/
def readTagHandle (inDirective : Bool) (start : Mark) (c : Cursor) : Fallible (List Char × Cursor) :=
  if !c.sees '!' then
    .error (.within (if inDirective then .tagDirectiveHandle else .tag) start .noExclamation c.mark)
  else
    let name := c.skip.takeWhile isWordChar
    let c := c.skip.skipWhile isWordChar
    if c.sees '!' then .ok ('!' :: name ++ ['!'], c.skip)
    else if inDirective && !name.isEmpty then
      .error (.within .tagDirectiveUri start .noExclamation c.mark)
    else .ok ('!' :: name, c)

/-- The characters of a tag apart from word characters and escapes; the last three only in directives and
between angle brackets. -/
def isUriChar (wide : Bool) (c : Char) : Bool :=
  isWordChar c || ";/?:@&=+$.!~*'()".toList.contains c || (wide && ",[]".toList.contains c)

/-- Length of the UTF-8 sequence that a first octet begins; 0 for an octet that begins none. -/
def sequenceWidth (octet : Nat) : Nat :=
  if octet < 0x80 then 1
  else if 0xC0 ≤ octet && octet < 0xE0 then 2
  else if 0xE0 ≤ octet && octet < 0xF0 then 3
  else if 0xF0 ≤ octet && octet < 0xF8 then 4
  else 0

def readOctet (fault : Problem → Mark → SourceFault) (c : Cursor) : Fallible (Nat × Cursor) :=
  match c.rest with
  | '%' :: a :: b :: _ =>
      match Text.digit? a, Text.digit? b with
      | some x, some y => .ok (x * 16 + y, c.skipN 3)
      | _, _ => .error (fault .noEscapedOctet c.mark)
  | _ => .error (fault .noEscapedOctet c.mark)

/-- The octets that follow the first one in an escaped character. -/
def readTrailing (fault : Problem → Mark → SourceFault) : Nat → Nat → Cursor → Fallible (Nat × Cursor)
  | 0, n, c => .ok (n, c)
  | count + 1, n, c => do
      let (octet, next) ← readOctet fault c
      if octet / 0x40 != 2 then throw (fault .trailingOctet c.mark)
      readTrailing fault count (n * 0x40 + octet % 0x40) next

/-- A character that is escaped octet by octet. -/
def readEscapedChar (fault : Problem → Mark → SourceFault) (c : Cursor) : Fallible (Char × Cursor) := do
  let (octet, next) ← readOctet fault c
  let width := sequenceWidth octet
  if width == 0 then throw (fault .leadingOctet c.mark)
  let lead := if width == 1 then octet else octet % powerOfTwo (7 - width)
  let (n, next) ← readTrailing fault (width - 1) lead next
  return (if n.isValidChar then Char.ofNat n else '\ufffd', next)

def readUriChars (wide : Bool) (fault : Problem → Mark → SourceFault) :
    Nat → Cursor → List Char → Fallible (List Char × Cursor)
  | 0, c, out => .ok (out.reverse, c)
  | fuel + 1, c, out =>
      match c.peek with
      | none => .ok (out.reverse, c)
      | some ch =>
          if ch == '%' then do
            let (e, c) ← readEscapedChar fault c
            readUriChars wide fault fuel c (e :: out)
          else if isUriChar wide ch then readUriChars wide fault fuel c.skip (ch :: out)
          else .ok (out.reverse, c)

/-- The rest of a tag after `head`, which counts as a part of it but for its first character.  Something has
to be there. -/
def readTagUri (wide inDirective : Bool) (head : List Char) (start : Mark) (c : Cursor) : Fallible (String × Cursor) := do
  let fault : Problem → Mark → SourceFault :=
    .within (if inDirective then .tagDirectiveUri else .tagUri) start
  let (chars, next) ← readUriChars wide fault (c.rest.length + 1) c []
  if head.isEmpty && chars.isEmpty then throw (fault .noTagUri next.mark)
  return (String.ofList (head.drop 1 ++ chars), next)

/-- Handle and rest of a tag; the cursor is on its `!`. -/
def readTagParts (start : Mark) (c : Cursor) : Fallible ((String × String) × Cursor) := do
  if c.peekAt 1 == some '<' then
    let (uri, c) ← readTagUri true false [] start (c.skipN 2)
    if !c.sees '>' then throw (.within .tag start .tagClose c.mark)
    return (("", uri), c.skip)
  let (handle, c) ← readTagHandle false start c
  if 2 ≤ handle.length && handle.getLast? == some '!' then
    let (uri, c) ← readTagUri false false [] start c
    return ((String.ofList handle, uri), c)
  let (uri, c) ← readTagUri false false handle start c
  return (if uri.isEmpty then ("", "!") else ("!", uri), c)

def readTag (inFlow : Bool) (c : Cursor) : Fallible (Token × Cursor) := do
  let start := c.mark
  let ((handle, uri), c) ← readTagParts start c
  if !(inFlow && c.sees ',') && !endsWord c.peek then
    throw (.within .tag start .noWhitespaceOrBreak c.mark)
  return (⟨.tag handle uri, start, c.mark⟩, c)

/-! ### Directives -/

def readVersionNumber (start : Mark) (c : Cursor) : Fallible (Nat × Cursor) :=
  let digits := c.takeWhile Char.isDigit
  if digits.length > 9 then
    .error (.within .versionDirective start .longVersion (c.skipN 9).mark)
  else if digits.isEmpty then .error (.within .versionDirective start .noVersion c.mark)
  else .ok (digits.foldl (fun n d => n * 10 + (d.toNat - '0'.toNat)) 0, c.skipN digits.length)

/-- The value of a directive with this name. -/
def readDirectiveValue (start : Mark) (name : String) (c : Cursor) : Fallible (TokenKind × Cursor) := do
  match name with
  | "YAML" =>
      let (major, c) ← readVersionNumber start (c.skipWhile isSpaceOrTab)
      if !c.sees '.' then throw (.within .versionDirective start .versionPoint c.mark)
      let (minor, c) ← readVersionNumber start c.skip
      return (.versionDirective major minor, c)
  | "TAG" =>
      let (handle, c) ← readTagHandle true start (c.skipWhile isSpaceOrTab)
      if !c.seesAny isSpaceOrTab then throw (.within .tagDirectiveRest start .noWhitespace c.mark)
      let (uri, c) ← readTagUri true true [] start (c.skipWhile isSpaceOrTab)
      if !endsWord c.peek then throw (.within .tagDirectiveRest start .noWhitespaceOrBreak c.mark)
      return (.tagDirective (String.ofList handle) uri, c)
  | _ => throw (.within .directive start .unknownDirective c.mark)

/-- A directive with the rest of its line; the cursor is on its `%`. -/
def readDirective (c : Cursor) : Fallible (Token × Cursor) := do
  let start := c.mark
  let name := c.skip.takeWhile isWordChar
  let c := c.skip.skipWhile isWordChar
  if name.isEmpty then throw (.within .directive start .directiveName c.mark)
  if !endsWord c.peek then throw (.within .directive start .nonAlphabetic c.mark)
  let (kind, c) ← readDirectiveValue start (String.ofList name) c
  let stop := c.mark
  let c := (c.skipWhile isSpaceOrTab).skipComment
  if !endsLine c.peek then throw (.within .directive start .directiveTail c.mark)
  return (⟨kind, start, stop⟩, c.skipLine)

end BoxDiagram.Yaml
