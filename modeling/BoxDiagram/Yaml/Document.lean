/-
Module: BoxDiagram.Yaml.Document
Purpose: The one document of a text as a tree of nodes.  Aliases are replaced by what they stand for, within
  limits, and the keys of every mapping are different.
Main exports: NodeEvent, EventList, composeNode, readDocument
-/
import BoxDiagram.Yaml.Node

namespace BoxDiagram.Yaml

/-! ### The events of one document -/

/-- The kinds of events inside a document.  An alias names a node by its number among the anchors. -/
inductive NodeEventKind where
  | reference (anchor : Nat)
  | scalar (tag : Option String) (text : String) (style : ScalarStyle)
  | sequenceStart (tag : Option String)
  | sequenceEnd
  | mappingStart (tag : Option String)
  | mappingEnd
deriving Repr, DecidableEq, Inhabited

/-- An event inside a document. -/
structure NodeEvent where
  kind : NodeEventKind
  mark : Mark
deriving Repr, DecidableEq, Inhabited

/-- The events of a document up to its end or a fault, newest first. -/
structure EventList where
  events : List NodeEvent
  /-- The numbers of the anchors by their names. -/
  names : List (String × Nat)
  /-- The places of the nodes with anchors, by their numbers, newest first; of several the newest counts. -/
  places : List (Nat × Nat)
  fault : Option YamlFault
  /-- Is there anything after the document? -/
  more : Bool
deriving Repr, Inhabited

namespace EventList

def empty : EventList := ⟨[], [], [], none, false⟩

/-- Add an event, and its anchor if it has one.  The number of an anchor is the number of names that are known
before it. -/
def add (l : EventList) (anchor : Option String) (kind : NodeEventKind) (mark : Mark) : EventList :=
  let l := match anchor with
    | none => l
    | some name =>
        let number := l.names.length
        { l with
          names :=
            if (l.names.lookup name).isSome then
              l.names.map fun (n, k) => if n == name then (name, number) else (n, k)
            else (name, number) :: l.names
          places := (number, l.events.length) :: l.places }
  { l with events := ⟨kind, mark⟩ :: l.events }

/-- Collect the events of the first document of a stream. -/
def collect (fault : Option SourceFault) : List Event → EventList → EventList
  | [], l => { l with fault := fault.map .source }
  | e :: rest, l =>
      match e.kind with
      | .streamStart | .documentStart | .streamEnd => collect fault rest l
      | .documentEnd => { l with more := fault.isSome || rest.any fun e => e.kind != .streamEnd }
      | .reference name =>
          match l.names.lookup name with
          | some number => collect fault rest (l.add none (.reference number) e.mark)
          | none => { l with fault := some (.unknownAnchor e.mark) }
      | .scalar anchor tag text style => collect fault rest (l.add anchor (.scalar tag text style) e.mark)
      | .sequenceStart anchor tag => collect fault rest (l.add anchor (.sequenceStart tag) e.mark)
      | .sequenceEnd => collect fault rest (l.add none .sequenceEnd e.mark)
      | .mappingStart anchor tag => collect fault rest (l.add anchor (.mappingStart tag) e.mark)
      | .mappingEnd => collect fault rest (l.add none .mappingEnd e.mark)

/-- The events of the first document of a text. -/
def ofText (text : String) : EventList :=
  let stream := EventStream.ofText text
  collect stream.fault stream.events empty

end EventList

/-! ### Nodes from events -/

/-- What nodes are put together from. -/
structure Composition where
  events : Array NodeEvent
  places : List (Nat × Nat)
  fault : Option YamlFault

/-- How far the composition has come: the number of events and of aliases that have been taken. -/
structure Progress where
  position : Nat
  aliases : Nat
deriving Repr, DecidableEq, Inhabited

namespace Progress

def step (p : Progress) : Progress := { p with position := p.position + 1 }

end Progress

/-- How deep collections may be nested. -/
def nestingLimit : Nat := 128

/-- How many aliases there may be for each event. -/
def aliasLimit : Nat := 100

namespace Composition

/-- The event at the present position.  Behind the last one there is the fault that ended the events. -/
def event (c : Composition) (p : Progress) : Except YamlFault NodeEvent :=
  match c.events[p.position]? with
  | some e => .ok e
  | none => .error (c.fault.getD .unfinished)

/-- A tag of the document's own has to have a name. -/
def checkTag (tag : Option String) (place : DataPlace) : Except YamlFault Unit :=
  if ownTag? tag == some "" then .error (.data .emptyTag (some place)) else .ok ()

/-- A scalar has to be what its tag says, and a whole number may not be too large. -/
def checkScalar (tag : Option String) (text : String) (style : ScalarStyle) (place : DataPlace) :
    Except YamlFault Unit :=
  match scalarAtom? tag text style with
  | some (.wide i) => .error (.data (.wrongType (.wide i) "any YAML value") (some place))
  | some _ => .ok ()
  | none =>
      let expected := ((tag.bind ScalarTag.ofUri?).map ScalarTag.expected).getD ""
      .error (.data (.wrongValue (.text text) expected) (some place))

mutual

/-- The node that begins at the present position, inside at most `depth` more collections. -/
def composeNode (c : Composition) :
    Nat → Nat → Path → Progress → Except YamlFault (Node × Progress)
  | 0, _, _, _ => .error .unfinished
  | fuel + 1, depth, path, p => do
      let e ← c.event p
      let place : DataPlace := ⟨e.mark, path⟩
      match e.kind with
      | .reference anchor =>
          let aliases := p.aliases + 1
          if aliases > c.events.size * aliasLimit then throw .tooManyAliases
          let target := (c.places.lookup anchor).getD c.events.size
          let (node, q) ← c.composeNode fuel depth path ⟨target, aliases⟩
          return (.reference node, ⟨p.position + 1, q.aliases⟩)
      | .scalar tag text style =>
          checkTag tag place
          checkScalar tag text style place
          return (.scalar e.mark tag text style, p.step)
      | .sequenceStart tag =>
          checkTag tag place
          match depth with
          | 0 => throw (.tooDeep e.mark)
          | depth + 1 =>
              let (items, p) ← c.composeItems fuel depth path 0 p.step
              return (.sequence e.mark tag items, p)
      | .mappingStart tag =>
          checkTag tag place
          match depth with
          | 0 => throw (.tooDeep e.mark)
          | depth + 1 =>
              let (entries, p) ← c.composeEntries fuel depth place [] p.step
              return (.mapping e.mark tag entries, p)
      | .sequenceEnd | .mappingEnd => throw .unfinished

/-- The items of a sequence up to its end. -/
def composeItems (c : Composition) :
    Nat → Nat → Path → Nat → Progress → Except YamlFault (List Node × Progress)
  | 0, _, _, _, _ => .error .unfinished
  | fuel + 1, depth, path, index, p => do
      let e ← c.event p
      if e.kind == .sequenceEnd then return ([], p.step)
      let (item, p) ← c.composeNode fuel depth (path ++ [.index index]) p
      let (rest, p) ← c.composeItems fuel depth path (index + 1) p
      return (item :: rest, p)

/-- The entries of a mapping up to its end.  A key may not be the same as an earlier one. -/
def composeEntries (c : Composition) :
    Nat → Nat → DataPlace → List Value → Progress → Except YamlFault (List (Node × Node) × Progress)
  | 0, _, _, _, _ => .error .unfinished
  | fuel + 1, depth, place, seen, p => do
      let e ← c.event p
      if e.kind == .mappingEnd then return ([], p.step)
      let (key, p) ← c.composeNode fuel depth place.path p
      if seen.any key.value.same then throw (.data (.duplicateKey key.value) (some place))
      let (value, p) ← c.composeNode fuel depth (place.path ++ [.ofKey key]) p
      let (rest, p) ← c.composeEntries fuel depth place (key.value :: seen) p
      return ((key, value) :: rest, p)

end

/-- The root node of a document.  A document without events stands for nothing. -/
def root (c : Composition) : Except YamlFault Node :=
  if c.events.isEmpty && c.fault.isNone then .ok (.scalar .start none "" .plain)
  else (c.composeNode ((c.events.size + 2) * (nestingLimit + 2)) nestingLimit [] ⟨0, 0⟩).map (·.1)

end Composition

/-- The root of the one document of a text.  Faults of the data that come before a fault of the text are found
first. -/
def readDocument (text : String) : Except YamlFault Node := do
  let l := EventList.ofText text
  let node ← Composition.root ⟨l.events.reverse.toArray, l.places, l.fault⟩
  match l.fault with
  | some f => throw f
  | none => if l.more then throw .severalDocuments else return node

end BoxDiagram.Yaml
