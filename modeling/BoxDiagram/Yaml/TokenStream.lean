/-
Module: BoxDiagram.Yaml.TokenStream
Purpose: The tokens of a text one after the other.  Indentation opens and closes blocks, and a colon turns
  what stands before it on its line into a key, so tokens wait in a queue until no key can begin before them.
Main exports: TokenStream, TokenStream.ofText, TokenStream.peek, TokenStream.drop
-/
import BoxDiagram.Yaml.Token

namespace BoxDiagram.Yaml

/-- A place where a key may have begun, if a colon follows on the same line. -/
structure KeyStart where
  /-- Must a colon follow?  It must if the key stands at the indentation of a block. -/
  required : Bool
  /-- Number of tokens before the key. -/
  tokenNumber : Nat
  mark : Mark
deriving Repr, DecidableEq, Inhabited

/-- Tokens that wait to be taken, and what is needed to read further ones. -/
structure TokenStream where
  cursor : Cursor
  started : Bool
  queue : List Token
  /-- Number of tokens that have been taken. -/
  taken : Nat
  /-- The column of the innermost block; -1 outside all blocks. -/
  indent : Int
  outerIndents : List Int
  keyAllowed : Bool
  /-- The last place where a key may have begun, at the innermost level of brackets. -/
  keyStart : Option KeyStart
  /-- The same for the levels around it, innermost first. -/
  outerKeyStarts : List (Option KeyStart)
deriving Repr, Inhabited

namespace TokenStream

def ofText (text : String) : TokenStream :=
  { cursor := ⟨text.toList, .start⟩
    started := false
    queue := []
    taken := 0
    indent := -1
    outerIndents := []
    keyAllowed := false
    keyStart := none
    outerKeyStarts := [] }

/-- Is the cursor inside brackets or braces? -/
def inFlow (t : TokenStream) : Bool := !t.outerKeyStarts.isEmpty

def mark (t : TokenStream) : Mark := t.cursor.mark

/-- Put a token at the end of the queue. -/
def enqueue (t : TokenStream) (token : Token) : TokenStream := { t with queue := t.queue ++ [token] }

/-- Put a token into the queue so that `tokenNumber` tokens come before it. -/
def insert (t : TokenStream) (tokenNumber : Nat) (token : Token) : TokenStream :=
  let place := tokenNumber - t.taken
  { t with queue := t.queue.take place ++ token :: t.queue.drop place }

/-- Put a token for the next `count` characters at the end of the queue and skip them. -/
def enqueueSkip (t : TokenStream) (kind : TokenKind) (count : Nat) : TokenStream :=
  let next := t.cursor.skipN count
  { (t.enqueue ⟨kind, t.mark, next.mark⟩) with cursor := next }

/-! ### Keys -/

/-- The fault of a key without its colon. -/
def keyFault (t : TokenStream) (k : KeyStart) : SourceFault :=
  .within .simpleKey k.mark .missingColon t.mark

/-- Has the place been left behind?  A key stands on one line and within 1024 bytes. -/
def isStale (t : TokenStream) (k : KeyStart) : Bool :=
  k.mark.line < t.mark.line || k.mark.index + 1024 < t.mark.index

/-- Give up places that have been left behind.  It is a fault to leave a required key behind; the outermost
such key counts. -/
def dropStaleKeys (t : TokenStream) : Fallible TokenStream :=
  let levels := (t.keyStart :: t.outerKeyStarts).reverse.filterMap id
  match levels.find? fun k => t.isStale k && k.required with
  | some k => .error (t.keyFault k)
  | none =>
      let keep (k : Option KeyStart) : Option KeyStart := k.filter fun k => !t.isStale k
      .ok { t with keyStart := keep t.keyStart, outerKeyStarts := t.outerKeyStarts.map keep }

/-- Give up the last place at the innermost level. -/
def dropKey (t : TokenStream) : Fallible TokenStream :=
  match t.keyStart with
  | some k => if k.required then .error (t.keyFault k) else .ok { t with keyStart := none }
  | none => .ok t

/-- Remember that a key may begin here. -/
def saveKey (t : TokenStream) : Fallible TokenStream :=
  if t.keyAllowed then do
    let required := !t.inFlow && t.indent == t.mark.column
    let k : KeyStart := ⟨required, t.taken + t.queue.length, t.mark⟩
    return { (← t.dropKey) with keyStart := some k }
  else .ok t

/-! ### Blocks -/

/-- Close all blocks that are indented by more than `column`. -/
def closeBlocks (column : Int) (t : TokenStream) : TokenStream :=
  if t.inFlow then t else go t.outerIndents t
where
  /-- The same, by the indentations of the blocks around the innermost one. -/
  go : List Int → TokenStream → TokenStream
    | [], t => t
    | outer :: rest, t =>
        if column < t.indent then
          go rest { (t.enqueue ⟨.blockEnd, t.mark, t.mark⟩) with indent := outer, outerIndents := rest }
        else t

/-- Open a block at a column if it is indented by more than the innermost one.  Its token goes to the end of
the queue, or behind `tokenNumber` tokens. -/
def openBlock (kind : TokenKind) (mark : Mark) (tokenNumber : Option Nat) (t : TokenStream) : TokenStream :=
  if t.inFlow || (mark.column : Int) ≤ t.indent then t
  else
    let opened := { t with indent := mark.column, outerIndents := t.indent :: t.outerIndents }
    let token : Token := ⟨kind, mark, mark⟩
    match tokenNumber with
    | none => opened.enqueue token
    | some n => opened.insert n token

/-! ### White space -/

/-- Skip white space, comments and line breaks.  Tabs count as white space where no key can begin.  After a
line break a key can begin, except inside brackets. -/
def skipWhite : Nat → TokenStream → TokenStream
  | 0, t => t
  | fuel + 1, t =>
      let c := t.cursor
      let c := if c.mark.index == 0 && c.sees '\ufeff' then c.skip else c
      let tabs := t.inFlow || !t.keyAllowed
      let c := (c.skipWhile fun ch => ch == ' ' || (tabs && ch == '\t')).skipComment
      if c.seesAny isBreak then
        skipWhite fuel { t with cursor := c.skipLine, keyAllowed := t.keyAllowed || !t.inFlow }
      else { t with cursor := c }

/-! ### Reading tokens -/

/-- End the stream: all blocks are closed, on a line of their own. -/
def readEnd (t : TokenStream) : Fallible TokenStream := do
  let m := t.mark
  let m := if m.column == 0 then m else ⟨m.index, m.line + 1, 0⟩
  let t ← ({ t with cursor := ⟨t.cursor.rest, m⟩ }.closeBlocks (-1)).dropKey
  return { (t.enqueue ⟨.streamEnd, m, m⟩) with keyAllowed := false }

/-- Take in a token that a reader has read. -/
def accept (t : TokenStream) (keyAllowed : Bool) : Token × Cursor → TokenStream
  | (token, c) => { (t.enqueue token) with cursor := c, keyAllowed := keyAllowed }

def readDirectiveToken (t : TokenStream) : Fallible TokenStream := do
  let t ← (t.closeBlocks (-1)).dropKey
  return t.accept false (← readDirective t.cursor)

/-- Indicators between documents end all blocks, as directives do. -/
def readDocumentIndicator (kind : TokenKind) (t : TokenStream) : Fallible TokenStream := do
  let t ← (t.closeBlocks (-1)).dropKey
  return { t with keyAllowed := false }.enqueueSkip kind 3

/-- An opening bracket or brace may itself begin a key. -/
def readFlowStart (kind : TokenKind) (t : TokenStream) : Fallible TokenStream := do
  let t ← t.saveKey
  return { t with
           keyStart := none
           outerKeyStarts := t.keyStart :: t.outerKeyStarts
           keyAllowed := true }.enqueueSkip kind 1

/-- A closing bracket or brace leads back to the level around it. -/
def readFlowEnd (kind : TokenKind) (t : TokenStream) : Fallible TokenStream := do
  let t ← t.dropKey
  let t := match t.outerKeyStarts with
    | [] => t
    | k :: rest => { t with keyStart := k, outerKeyStarts := rest }
  return { t with keyAllowed := false }.enqueueSkip kind 1

def readFlowEntry (t : TokenStream) : Fallible TokenStream := do
  return { (← t.dropKey) with keyAllowed := true }.enqueueSkip .flowEntry 1

/-- A hyphen before an entry of a block sequence. -/
def readBlockEntry (t : TokenStream) : Fallible TokenStream := do
  if !t.inFlow && !t.keyAllowed then throw (.bare .blockEntryNotAllowed t.mark)
  let t ← (t.openBlock .blockSequenceStart t.mark none).dropKey
  return { t with keyAllowed := true }.enqueueSkip .blockEntry 1

def readKey (t : TokenStream) : Fallible TokenStream := do
  if !t.inFlow && !t.keyAllowed then throw (.bare .mappingKeyNotAllowed t.mark)
  let t ← (t.openBlock .blockMappingStart t.mark none).dropKey
  return { t with keyAllowed := !t.inFlow }.enqueueSkip .key 1

/-- A colon.  If a key may have begun before it, the key and maybe its mapping get their tokens now. -/
def readValue (t : TokenStream) : Fallible TokenStream := do
  match t.keyStart with
  | some k =>
      let t := t.insert k.tokenNumber ⟨.key, k.mark, k.mark⟩
      let t := t.openBlock .blockMappingStart k.mark (some k.tokenNumber)
      return { t with keyStart := none, keyAllowed := false }.enqueueSkip .value 1
  | none =>
      if !t.inFlow && !t.keyAllowed then throw (.bare .mappingValueNotAllowed t.mark)
      let t := t.openBlock .blockMappingStart t.mark none
      return { t with keyAllowed := !t.inFlow }.enqueueSkip .value 1

/-- An anchor, an alias, a tag or a quoted scalar, each of which may begin a key. -/
def readWith (reader : Cursor → Fallible (Token × Cursor)) (t : TokenStream) : Fallible TokenStream := do
  let t ← t.saveKey
  return t.accept false (← reader t.cursor)

def readBlock (literal : Bool) (t : TokenStream) : Fallible TokenStream := do
  let t ← t.dropKey
  return t.accept true (← readBlockScalar t.indent literal t.cursor)

/-- A plain scalar.  A key may begin after one that stopped after a line break. -/
def readPlain (t : TokenStream) : Fallible TokenStream := do
  let t ← t.saveKey
  let ((token, broken), c) ← readPlainScalar t.indent t.inFlow t.cursor
  return t.accept broken (token, c)

/-- Characters that cannot begin a plain scalar, or only before certain others. -/
def isIndicator (c : Char) : Bool := "-?:,[]{}#&*!|>'\"%@\x60".toList.contains c

def startsPlain (t : TokenStream) (ch : Char) (next : Option Char) : Bool :=
  !(isIndicator ch || endsWord (some ch)) || (ch == '-' && !next.any isSpaceOrTab) ||
    (!t.inFlow && (ch == '?' || ch == ':') && !endsWord next)

/-- Read the token that begins with a character under the cursor. -/
def readToken (t : TokenStream) (ch : Char) : Fallible TokenStream :=
  let next := t.cursor.peekAt 1
  let wordEnds := endsWord next
  if t.mark.column == 0 && ch == '%' then t.readDirectiveToken
  else if t.cursor.seesDocumentIndicator then
    t.readDocumentIndicator (if ch == '-' then .documentStart else .documentEnd)
  else if ch == '[' then t.readFlowStart .flowSequenceStart
  else if ch == '{' then t.readFlowStart .flowMappingStart
  else if ch == ']' then t.readFlowEnd .flowSequenceEnd
  else if ch == '}' then t.readFlowEnd .flowMappingEnd
  else if ch == ',' then t.readFlowEntry
  else if ch == '-' && wordEnds then t.readBlockEntry
  else if ch == '?' && (t.inFlow || wordEnds) then t.readKey
  else if ch == ':' && (t.inFlow || wordEnds) then t.readValue
  else if ch == '*' then t.readWith (readAnchor true)
  else if ch == '&' then t.readWith (readAnchor false)
  else if ch == '!' then t.readWith (readTag t.inFlow)
  else if ch == '|' && !t.inFlow then t.readBlock true
  else if ch == '>' && !t.inFlow then t.readBlock false
  else if ch == '\'' then t.readWith (readQuotedScalar true)
  else if ch == '"' then t.readWith (readQuotedScalar false)
  else if t.startsPlain ch next then t.readPlain
  else .error (.within .nextToken t.mark .noToken t.mark)

def readMore (t : TokenStream) : Fallible TokenStream := do
  if !t.started then
    match forbiddenOffset? t.cursor.rest with
    | some offset => throw (.forbidden offset)
    | none =>
        return { (t.enqueue ⟨.streamStart, t.mark, t.mark⟩) with started := true, keyAllowed := true }
  let t ← (skipWhite (t.cursor.rest.length + 1) t).dropStaleKeys
  let t := t.closeBlocks t.mark.column
  match t.cursor.peek with
  | none => t.readEnd
  | some ch => t.readToken ch

/-! ### Taking tokens -/

/-- May a key still turn out to begin before the first token of the queue? -/
def isHeadOpen (t : TokenStream) : Bool :=
  (t.keyStart :: t.outerKeyStarts).any fun k => k.any fun k => k.tokenNumber == t.taken

/-- Read tokens until the first one of the queue is settled. -/
def settle : Nat → TokenStream → Fallible TokenStream
  | 0, t => .ok t
  | fuel + 1, t =>
      if t.queue.isEmpty then do settle fuel (← t.readMore)
      else do
        let t ← t.dropStaleKeys
        if t.isHeadOpen then settle fuel (← t.readMore) else return t

/-- The next token, which stays in the stream.  Every character gives at most one reading step. -/
def peek (t : TokenStream) : Fallible (Token × TokenStream) := do
  let t ← settle (t.cursor.rest.length + 4) t
  return (t.queue.headD ⟨.streamEnd, t.mark, t.mark⟩, t)

def drop (t : TokenStream) : TokenStream := { t with queue := t.queue.drop 1, taken := t.taken + 1 }

end TokenStream

end BoxDiagram.Yaml
