/-
Module: BoxDiagram.Yaml.Event
Purpose: The structure of a text as a sequence of events: where nodes begin and end, and what scalars there
  are.
Main exports: EventKind, Event, EventStream, EventStream.ofText
-/
import BoxDiagram.Yaml.TokenStream

namespace BoxDiagram.Yaml

/-- The kinds of events. -/
inductive EventKind where
  | streamStart
  | streamEnd
  | documentStart
  | documentEnd
  | reference (name : String)
  | scalar (anchor tag : Option String) (text : String) (style : ScalarStyle)
  | sequenceStart (anchor tag : Option String)
  | sequenceEnd
  | mappingStart (anchor tag : Option String)
  | mappingEnd
deriving Repr, DecidableEq, Inhabited

/-- An event with the place where it starts. -/
structure Event where
  kind : EventKind
  mark : Mark
deriving Repr, DecidableEq, Inhabited

/-- What is expected next. -/
inductive Expect where
  | streamStart
  | implicitDocument
  | document
  | documentContent
  | documentEnd
  | blockNode
  | blockSequenceEntry (isFirst : Bool)
  | indentlessEntry
  | blockKey (isFirst : Bool)
  | blockValue
  | flowSequenceEntry (isFirst : Bool)
  | pairKey
  | pairValue
  | pairEnd
  | flowKey (isFirst : Bool)
  | flowValue
  | flowEmptyValue
  | nothing
deriving Repr, DecidableEq, Inhabited

/-- Events in the making: the tokens to come, what is expected now and after the open nodes, and where the open
collections began. -/
structure EventSource where
  tokens : TokenStream
  expect : Expect
  pending : List Expect
  openings : List Mark
  handles : List (String × String)
deriving Repr, Inhabited

namespace EventSource

def ofText (text : String) : EventSource :=
  { tokens := .ofText text
    expect := .streamStart
    pending := []
    openings := []
    handles := [] }

/-- An event together with the source after it. -/
abbrev Step := Fallible (Event × EventSource)

def peek (s : EventSource) : Fallible (Token × EventSource) := do
  let (token, tokens) ← s.tokens.peek
  return (token, { s with tokens := tokens })

def drop (s : EventSource) : EventSource := { s with tokens := s.tokens.drop }

def peekNext (s : EventSource) : Fallible (Token × EventSource) := s.drop.peek

def expecting (s : EventSource) (e : Expect) : EventSource := { s with expect := e }

/-- Expect something after the node that comes now. -/
def afterwards (s : EventSource) (e : Expect) : EventSource := { s with pending := e :: s.pending }

/-- Expect what was to come after the node that ends now. -/
def resume (s : EventSource) : EventSource :=
  match s.pending with
  | [] => { s with expect := .nothing }
  | e :: rest => { s with expect := e, pending := rest }

def begin (s : EventSource) (m : Mark) : EventSource := { s with openings := m :: s.openings }

/-- Where the innermost collection began. -/
def opening (s : EventSource) : Mark := s.openings.headD .start

/-- Forget where the innermost collection began. -/
def close (s : EventSource) : EventSource := { s with openings := s.openings.drop 1 }

def emptyScalar (s : EventSource) (m : Mark) (next : Expect) : Step :=
  .ok (⟨.scalar none none "" .plain, m⟩, s.expecting next)

/-! ### Documents -/

/-- The handles that every document knows. -/
def defaultHandles : List (String × String) := [("!", "!"), ("!!", "tag:yaml.org,2002:")]

/-- Add the default handles, apart from those that a directive has set. -/
def withDefaultHandles (handles : List (String × String)) : List (String × String) :=
  handles ++ defaultHandles.filter fun d => !handles.any fun h => h.1 == d.1

/-- Read the directives before a document.  `version` says whether there was one already. -/
def readDirectives : Nat → Bool → EventSource → Fallible EventSource
  | 0, _, s => .ok s
  | fuel + 1, version, s => do
      let (token, s) ← s.peek
      match token.kind with
      | .versionDirective major minor =>
          if version then throw (.bare .duplicateVersion token.start)
          if major != 1 || (minor != 1 && minor != 2) then throw (.bare .incompatibleVersion token.start)
          readDirectives fuel true s.drop
      | .tagDirective handle uri =>
          if s.handles.any fun h => h.1 == handle then throw (.bare .duplicateTagDirective token.start)
          readDirectives fuel version { s.drop with handles := s.handles ++ [(handle, uri)] }
      | _ => return { s with handles := withDefaultHandles s.handles }

/-- Skip indicators that end documents. -/
def skipDocumentEnds : Nat → EventSource → Fallible EventSource
  | 0, s => .ok s
  | fuel + 1, s => do
      let (token, s) ← s.peek
      if token.kind == .documentEnd then skipDocumentEnds fuel s.drop else return s

/-- Enough steps for any run of tokens that is left. -/
def tokenBound (s : EventSource) : Nat := s.tokens.queue.length + s.tokens.cursor.rest.length + 1

/-- A document with directives or an indicator before it, or the end of the stream. -/
def explicitDocument (token : Token) (s : EventSource) : Step := do
  if token.kind == .streamEnd then return (⟨.streamEnd, token.start⟩, s.drop.expecting .nothing)
  let s ← readDirectives s.tokenBound false s
  let (indicator, s) ← s.peek
  if indicator.kind != .documentStart then throw (.bare .noDocumentStart indicator.start)
  return (⟨.documentStart, token.start⟩, (s.drop.afterwards .documentEnd).expecting .documentContent)

/-- The first document needs no indicator before it. -/
def implicitDocument (s : EventSource) : Step := do
  let (token, s) ← s.peek
  match token.kind with
  | .versionDirective _ _ | .tagDirective _ _ | .documentStart | .streamEnd => explicitDocument token s
  | _ =>
      let s := { s with handles := withDefaultHandles s.handles }
      return (⟨.documentStart, token.start⟩, (s.afterwards .documentEnd).expecting .blockNode)

def laterDocument (s : EventSource) : Step := do
  let s ← skipDocumentEnds s.tokenBound s
  let (token, s) ← s.peek
  explicitDocument token s

def documentEnd (s : EventSource) : Step := do
  let (token, s) ← s.peek
  let s := if token.kind == .documentEnd then s.drop else s
  return (⟨.documentEnd, token.start⟩, { s with handles := [] }.expecting .document)

/-! ### Nodes -/

/-- What stands before the content of a node. -/
structure Properties where
  anchor : Option String
  tag : Option (String × String × Mark)
  start : Mark
deriving Repr, DecidableEq, Inhabited

def readProperties (s : EventSource) : Fallible (Properties × Token × EventSource) := do
  let (first, s) ← s.peek
  match first.kind with
  | .anchor name =>
      let (second, s) ← s.peekNext
      match second.kind with
      | .tag handle uri =>
          let (token, s) ← s.peekNext
          return (⟨some name, some (handle, uri, second.start), first.start⟩, token, s)
      | _ => return (⟨some name, none, first.start⟩, second, s)
  | .tag handle uri =>
      let (second, s) ← s.peekNext
      match second.kind with
      | .anchor name =>
          let (token, s) ← s.peekNext
          return (⟨some name, some (handle, uri, first.start), first.start⟩, token, s)
      | _ => return (⟨none, some (handle, uri, first.start), first.start⟩, second, s)
  | _ => return (⟨none, none, first.start⟩, first, s)

def wholeTag (s : EventSource) (p : Properties) : Fallible (Option String) :=
  match p.tag with
  | none => .ok none
  | some (handle, uri, mark) =>
      if handle.isEmpty then .ok (some uri)
      else
        match s.handles.find? fun h => h.1 == handle with
        | some h => .ok (some (h.2 ++ uri))
        | none => .error (.within .node p.start .undefinedTagHandle mark)

/-- A node.  `block` allows block collections, `indentless` a sequence without indentation of its own. -/
def node (block indentless : Bool) (s : EventSource) : Step := do
  let (first, s) ← s.peek
  if let .reference name := first.kind then return (⟨.reference name, first.start⟩, s.drop.resume)
  let (p, token, s) ← s.readProperties
  let tag ← s.wholeTag p
  let sequence := EventKind.sequenceStart p.anchor tag
  let mapping := EventKind.mappingStart p.anchor tag
  match token.kind with
  | .blockEntry =>
      if indentless then return (⟨sequence, p.start⟩, s.expecting .indentlessEntry)
      unfit p tag token s
  | .scalar text style =>
      let tag := tag.filter (· != "!")
      return (⟨.scalar p.anchor tag text style, p.start⟩, s.drop.resume)
  | .flowSequenceStart => return (⟨sequence, p.start⟩, s.expecting (.flowSequenceEntry true))
  | .flowMappingStart => return (⟨mapping, p.start⟩, s.expecting (.flowKey true))
  | .blockSequenceStart =>
      if block then return (⟨sequence, p.start⟩, s.expecting (.blockSequenceEntry true))
      unfit p tag token s
  | .blockMappingStart =>
      if block then return (⟨mapping, p.start⟩, s.expecting (.blockKey true))
      unfit p tag token s
  | _ => unfit p tag token s
where
  /-- No content: a node with properties is an empty scalar, and any other one is a fault. -/
  unfit (p : Properties) (tag : Option String) (token : Token) (s : EventSource) : Step :=
    if p.anchor.isSome || tag.isSome then .ok (⟨.scalar p.anchor tag "" .plain, p.start⟩, s.resume)
    else .error (.within (if block then .blockNode else .flowNode) p.start .noContent token.start)

/-- The content of a document after its indicator. -/
def documentContent (s : EventSource) : Step := do
  let (token, s) ← s.peek
  match token.kind with
  | .versionDirective _ _ | .tagDirective _ _ | .documentStart | .documentEnd | .streamEnd =>
      return (⟨.scalar none none "" .plain, token.start⟩, s.resume)
  | _ => node true false s

/-! ### Block collections -/

/-- Drop the token that opens a collection, and remember its place. -/
def enter (isFirst : Bool) (s : EventSource) : Fallible EventSource := do
  if isFirst then
    let (token, s) ← s.peek
    return s.drop.begin token.start
  return s

/-- The end of a collection, at a token of its own. -/
def finish (kind : EventKind) (token : Token) (s : EventSource) : Step :=
  .ok (⟨kind, token.start⟩, s.drop.close.resume)

/-- A node, or an empty scalar if one of these tokens comes at once. -/
def nodeUnless (stops : List TokenKind) (block indentless : Bool) (next : Expect) (place : Token → Mark)
    (s : EventSource) : Step := do
  let (token, s) ← s.peek
  if stops.contains token.kind then s.emptyScalar (place token) next
  else node block indentless (s.afterwards next)

/-- An entry of a block sequence, or its end. -/
def blockSequenceEntry (isFirst : Bool) (s : EventSource) : Step := do
  let s ← s.enter isFirst
  let (token, s) ← s.peek
  match token.kind with
  | .blockEntry =>
      s.drop.nodeUnless [.blockEntry, .blockEnd] true false (.blockSequenceEntry false) fun _ => token.stop
  | .blockEnd => s.finish .sequenceEnd token
  | _ => throw (.within .blockCollection s.opening .noDash token.start)

/-- An entry of a sequence in a mapping without indentation of its own, or its end. -/
def indentlessEntry (s : EventSource) : Step := do
  let (token, s) ← s.peek
  match token.kind with
  | .blockEntry =>
      s.drop.nodeUnless [.blockEntry, .key, .value, .blockEnd] true false .indentlessEntry fun _ => token.stop
  | _ => return (⟨.sequenceEnd, token.start⟩, s.resume)

/-- A key of a block mapping, or its end. -/
def blockKey (isFirst : Bool) (s : EventSource) : Step := do
  let s ← s.enter isFirst
  let (token, s) ← s.peek
  match token.kind with
  | .key => s.drop.nodeUnless [.key, .value, .blockEnd] true true .blockValue fun _ => token.stop
  | .blockEnd => s.finish .mappingEnd token
  | _ => throw (.within .blockMapping s.opening .noKey token.start)

def blockValue (s : EventSource) : Step := do
  let (token, s) ← s.peek
  match token.kind with
  | .value => s.drop.nodeUnless [.key, .value, .blockEnd] true true (.blockKey false) fun _ => token.stop
  | _ => s.emptyScalar token.start (.blockKey false)

/-! ### Flow collections -/

/-- Drop the comma before every entry of a flow collection but the first. -/
def comma (isFirst : Bool) (closing : TokenKind) (fault : Token → SourceFault) (s : EventSource) :
    Fallible (Token × EventSource) := do
  let (token, s) ← s.peek
  if token.kind == closing || isFirst then return (token, s)
  if token.kind == .flowEntry then s.peekNext else throw (fault token)

/-- An entry of a flow sequence, or its end. -/
def flowSequenceEntry (isFirst : Bool) (s : EventSource) : Step := do
  let s ← s.enter isFirst
  let fault (t : Token) : SourceFault := .within .flowSequence s.opening .noCommaOrBracket t.start
  let (token, s) ← s.comma isFirst .flowSequenceEnd fault
  match token.kind with
  | .flowSequenceEnd => s.finish .sequenceEnd token
  | .key => return (⟨.mappingStart none none, token.start⟩, s.drop.expecting .pairKey)
  | _ => node false false (s.afterwards (.flowSequenceEntry false))

/-- The key of a single pair in a flow sequence. -/
def pairKey (s : EventSource) : Step := do
  let (token, s) ← s.peek
  match token.kind with
  | .value | .flowEntry | .flowSequenceEnd => s.drop.emptyScalar token.stop .pairValue
  | _ => node false false (s.afterwards .pairValue)

/-- The value of a single pair in a flow sequence. -/
def pairValue (s : EventSource) : Step := do
  let (token, s) ← s.peek
  match token.kind with
  | .value => s.drop.nodeUnless [.flowEntry, .flowSequenceEnd] false false .pairEnd Token.start
  | _ => s.emptyScalar token.start .pairEnd

/-- The end of a single pair in a flow sequence. -/
def pairEnd (s : EventSource) : Step := do
  let (token, s) ← s.peek
  return (⟨.mappingEnd, token.start⟩, s.expecting (.flowSequenceEntry false))

/-- A key of a flow mapping, or its end. -/
def flowKey (isFirst : Bool) (s : EventSource) : Step := do
  let s ← s.enter isFirst
  let fault (t : Token) : SourceFault := .within .flowMapping s.opening .noCommaOrBrace t.start
  let (token, s) ← s.comma isFirst .flowMappingEnd fault
  match token.kind with
  | .flowMappingEnd => s.finish .mappingEnd token
  | .key => s.drop.nodeUnless [.value, .flowEntry, .flowMappingEnd] false false .flowValue Token.start
  | _ => node false false (s.afterwards .flowEmptyValue)

def flowValue (s : EventSource) : Step := do
  let (token, s) ← s.peek
  match token.kind with
  | .value => s.drop.nodeUnless [.flowEntry, .flowMappingEnd] false false (.flowKey false) Token.start
  | _ => s.emptyScalar token.start (.flowKey false)

/-- The value of a key of a flow mapping that has no colon. -/
def flowEmptyValue (s : EventSource) : Step := do
  let (token, s) ← s.peek
  s.emptyScalar token.start (.flowKey false)

/-! ### All events -/

def next (s : EventSource) : Step :=
  match s.expect with
  | .streamStart => do
      let (token, s) ← s.peek
      return (⟨.streamStart, token.start⟩, s.drop.expecting .implicitDocument)
  | .implicitDocument => s.implicitDocument
  | .document => s.laterDocument
  | .documentContent => s.documentContent
  | .documentEnd => s.documentEnd
  | .blockNode => node true false s
  | .blockSequenceEntry isFirst => s.blockSequenceEntry isFirst
  | .indentlessEntry => s.indentlessEntry
  | .blockKey isFirst => s.blockKey isFirst
  | .blockValue => s.blockValue
  | .flowSequenceEntry isFirst => s.flowSequenceEntry isFirst
  | .pairKey => s.pairKey
  | .pairValue => s.pairValue
  | .pairEnd => s.pairEnd
  | .flowKey isFirst => s.flowKey isFirst
  | .flowValue => s.flowValue
  | .flowEmptyValue => s.flowEmptyValue
  | .nothing => .ok (⟨.streamEnd, s.tokens.mark⟩, s)

end EventSource

/-- The events of a text up to its end or the first fault. -/
structure EventStream where
  events : List Event
  fault : Option SourceFault
deriving Repr, DecidableEq, Inhabited

namespace EventStream

/-- Collect events, newest first, until the stream ends. -/
def collect : Nat → EventSource → List Event → EventStream
  | 0, _, events => ⟨events.reverse, none⟩
  | fuel + 1, s, events =>
      match s.next with
      | .error f => ⟨events.reverse, some f⟩
      | .ok (e, s) =>
          if e.kind == .streamEnd then ⟨(e :: events).reverse, none⟩
          else collect fuel s (e :: events)

/-- The events of a text.  A character takes part in at most four events. -/
def ofText (text : String) : EventStream := collect (4 * text.length + 16) (.ofText text) []

end EventStream

end BoxDiagram.Yaml
