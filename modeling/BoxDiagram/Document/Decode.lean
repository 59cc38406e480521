/-
Module: BoxDiagram.Document.Decode
Purpose: The raw document that a tree of nodes denotes.  Fields that are not known are passed over, and a
  missing or empty value leaves a field out.
Main exports: decodeDocument
-/
import BoxDiagram.Document.Raw
import BoxDiagram.OrderedMap
import BoxDiagram.Yaml.Document

namespace BoxDiagram

open Yaml

/-- A way to read a value from the node at the end of a path. -/
abbrev Decoder (β : Type) := Path → Node → Except YamlFault β

/-- A problem that gets its place from what is around it. -/
def dataFault {β : Type} (problem : DataProblem) : Except YamlFault β := .error (.data problem none)

/-- The problem that a node is not what is expected. -/
def wrongNode {β : Type} (n : Node) (expected : String) : Except YamlFault β :=
  dataFault (.wrongType (.ofNode n) expected)

/-! ### Scalars -/

/-- A text, a number or a truth value as text. -/
def Yaml.Atom.asText? : Atom → Option String
  | .text s => some s
  | .number n => some n.text
  | .bool b => some (toString b)
  | .null | .wide _ => none

/-- What a value is called in a report that it is no text. -/
def Yaml.Value.kindName : Value → String
  | .atom .null => "null"
  | .atom (.bool _) => "a boolean"
  | .atom (.number _) | .atom (.wide _) => "a number"
  | .atom (.text _) => "a string"
  | .sequence _ => "a list"
  | .mapping _ => "a mapping"
  | .tagged _ _ => "a tagged value"

/-- A text, which may be written as a number or a truth value. -/
def decodeText : Decoder String := fun _ n =>
  let found := n.value
  match found with
  | .atom a =>
      match a.asText? with
      | some s => .ok s
      | none => dataFault (.noText found.kindName)
  | _ => dataFault (.noText found.kindName)

/-- Does a node leave its field out?  Only what is written without quotes can. -/
def isMissing (n : Node) : Bool :=
  match n.resolve with
  | .scalar _ tag text .plain =>
      match tag with
      | none => text.isEmpty || isNullWord text
      | some t => t == ScalarTag.null.uri && isNullWord text
  | _ => false

def optional {β : Type} (d : Decoder β) : Decoder (Option β) := fun path n =>
  if isMissing n then .ok none else (d path n).map some

/-- May the text of a scalar be read as something else than a text? -/
def isLiteral (t : ScalarTag) (tag : Option String) (style : ScalarStyle) : Bool :=
  style == .plain || (style == .literal && tag == some t.uri)

def decodeBool : Decoder Bool := fun path n => locate n path <|
  match n.resolve with
  | .scalar _ tag text style =>
      match if isLiteral .bool tag style then readBool? text else none with
      | some b => .ok b
      | none => wrongNode n "a boolean"
  | _ => wrongNode n "a boolean"

/-- A whole number of 32 bits without a sign. -/
def decodeNat32 : Decoder Nat := fun path n => locate n path <|
  match n.resolve with
  | .scalar _ tag text style =>
      match if isLiteral .int tag style then readUnsigned? text else none with
      | some k => if k < powerOfTwo 32 then .ok k else dataFault (.wrongValue (.integer k) "u32")
      | none => wrongNode n "u32"
  | _ => wrongNode n "u32"

/-! ### Collections -/

def decodeKey (expected : String) : Decoder String := fun path n => locate n path <|
  match n.resolve with
  | .scalar _ _ text _ => .ok text
  | _ => wrongNode n expected

/-- The entries of a mapping; nothing at all is an empty mapping. -/
def entriesOf (expected : String) (n : Node) : Except YamlFault (List (Node × Node)) :=
  match n.resolve with
  | .mapping _ _ entries => .ok entries
  | .scalar _ _ "" .plain => .ok []
  | _ => wrongNode n expected

/-- The items of a sequence; nothing at all is an empty sequence. -/
def itemsOf (n : Node) : Except YamlFault (List Node) :=
  match n.resolve with
  | .sequence _ _ items => .ok items
  | .scalar _ _ "" .plain => .ok []
  | _ => wrongNode n "a sequence"

def decodeList {β : Type} (d : Decoder β) : Decoder (List β) := fun path n => locate n path do
  (← itemsOf n).zipIdx.mapM fun (item, i) => d (path ++ [.index i]) item

/-- A map from texts; of several values for one key the last one counts. -/
def decodeMap {β : Type} (d : String → Decoder β) : Decoder (List (String × β)) := fun path n =>
  locate n path do
    let m ← (← entriesOf "a map" n).foldlM
      (fun (m : OrderedMap β) (key, value) => do
        let name ← decodeKey "a string" path key
        return m.insert name (← d name (path ++ [.ofKey key]) value))
      OrderedMap.empty
    return m.entries

/-- A record.  `field?` tells the field that a key names, and `set` reads its value into the record.  No field
may be named twice. -/
def decodeRecord {σ : Type} (expected : String) (field? : String → Option String)
    (set : σ → String → Decoder σ) (start : σ) : Decoder σ := fun path n => locate n path do
  let (record, _) ← (← entriesOf expected n).foldlM
    (fun (state : σ × List String) (key, value) => do
      let (record, seen) := state
      match field? (← decodeKey "field identifier" path key) with
      | none => return state
      | some field =>
          if seen.contains field then dataFault (.duplicateField field)
          return (← set record field (path ++ [.ofKey key]) value, field :: seen))
    (start, [])
  return record

/-- The keys that name fields of the same spelling. -/
def among (fields : List String) (key : String) : Option String := fields.find? (· == key)

/-! ### Values of several shapes -/

mutual

/-- The first node with a tag of the document's own, in or inside the node at the end of a path. -/
def ownTagPlace? (path : Path) : Node → Option DataPlace
  | .scalar m tag _ _ => if (ownTag? tag).isSome then some ⟨m, path⟩ else none
  | .sequence m tag items =>
      if (ownTag? tag).isSome then some ⟨m, path⟩ else ownTagAmong? path 0 items
  | .mapping m tag entries =>
      if (ownTag? tag).isSome then some ⟨m, path⟩ else ownTagInEntries? path entries
  | .reference target => ownTagPlace? path target

/-- The same for the items of a sequence from a number on. -/
def ownTagAmong? (path : Path) (index : Nat) : List Node → Option DataPlace
  | [] => none
  | n :: ns =>
      match ownTagPlace? (path ++ [.index index]) n with
      | some place => some place
      | none => ownTagAmong? path (index + 1) ns

/-- The same for the entries of a mapping. -/
def ownTagInEntries? (path : Path) : List (Node × Node) → Option DataPlace
  | [] => none
  | (k, v) :: rest =>
      match ownTagPlace? path k with
      | some place => some place
      | none =>
          match ownTagPlace? (path ++ [.ofKey k]) v with
          | some place => some place
          | none => ownTagInEntries? path rest

end

/-- A value that may have one of several shapes, by a reader that knows them all.  Tags of the document's own
are not allowed anywhere in it. -/
def decodeVariant {β : Type} (name : String) (read? : Node → Option β) : Decoder β := fun path n =>
  match ownTagPlace? path n with
  | some place => .error (.data .taggedVariant (some place))
  | none =>
      match read? n with
      | some value => .ok value
      | none => dataFault (.noVariant name)

/-- What a scalar stands for; `none` for a collection. -/
def atomOf? (n : Node) : Option Atom :=
  match n.resolve with
  | .scalar _ tag text style => scalarAtom? tag text style
  | _ => none

def oneOrMany? {β : Type} (read? : Node → Option β) (n : Node) : Option (List β) :=
  match n.resolve with
  | .sequence _ _ items => items.mapM read?
  | n => (read? n).map fun value => [value]

def readNumber? (n : Node) : Option YamlNumber :=
  match atomOf? n with
  | some (.number x) => some x
  | _ => none

/-- A text, which may be written as a number or a truth value. -/
def readText? (n : Node) : Option String := (atomOf? n).bind Atom.asText?

def readOptional? {β : Type} (read? : Atom → Option β) (n : Node) : Option (Option β) :=
  match atomOf? n with
  | some .null => some none
  | some a => (read? a).map some
  | none => none

def readTruth? : Atom → Option Bool
  | .bool b => some b
  | _ => none

/-- The fields of the style of an edge. -/
inductive EdgeStyleField where
  | colour
  | dashed
  | other
deriving Repr, DecidableEq, Inhabited

/-- The field that a key names, by its name or its place. -/
def EdgeStyleField.ofKey? (n : Node) : Option EdgeStyleField :=
  match atomOf? n with
  | some (.text s) =>
      if s == "color" || s == "colour" then some .colour else if s == "dashed" then some .dashed else some .other
  | some (.number (.natural k)) => some (if k == 0 then .colour else if k == 1 then .dashed else .other)
  | _ => none

/-- Colour and dashes that have been read so far. -/
structure EdgeOptions where
  colour : Option (Option String)
  dashed : Option (Option Bool)
deriving Repr, DecidableEq, Inhabited

/-- Read one field; no field may come twice. -/
def EdgeOptions.set? (o : EdgeOptions) (field : EdgeStyleField) (n : Node) : Option EdgeOptions :=
  match field with
  | .colour =>
      if o.colour.isSome then none
      else (readOptional? Atom.asText? n).map fun c => { o with colour := some c }
  | .dashed =>
      if o.dashed.isSome then none
      else (readOptional? readTruth? n).map fun d => { o with dashed := some d }
  | .other => some o

/-- The style that the options make up. -/
def EdgeOptions.style (o : EdgeOptions) : RawEdgeStyle := .options o.colour.join o.dashed.join

/-- The style of an edge: a keyword, a record, or the fields of the record in order. -/
def readEdgeStyle? (n : Node) : Option RawEdgeStyle :=
  match n.resolve with
  | .mapping _ _ entries =>
      (entries.foldlM (fun (o : EdgeOptions) (key, value) => do o.set? (← EdgeStyleField.ofKey? key) value)
        ⟨none, none⟩).map EdgeOptions.style
  | .sequence _ _ items =>
      if items.length > 2 then none
      else
        (([EdgeStyleField.colour, .dashed].zip items).foldlM (fun (o : EdgeOptions) (f, value) => o.set? f value)
          ⟨none, none⟩).map EdgeOptions.style
  | n =>
      match atomOf? n with
      | some (.text word) => some (.keyword word)
      | _ => none

/-! ### The parts of a document -/

def decodePort (id : String) : Decoder RawPort := fun path n => do
  let read : Decoder RawPort :=
    decodeRecord "struct RawPort" (among ["dir", "label", "side"])
      (fun p field path n => do
        let text ← optional decodeText path n
        match field with
        | "dir" => return { p with dir := text }
        | "label" => return { p with label := text }
        | _ => return { p with side := text })
      ⟨id, none, none, none⟩
  return (← optional read path n).getD ⟨id, none, none, none⟩

def decodeBoxStyle : Decoder RawBoxStyle :=
  decodeRecord "struct RawBoxStyle"
    (fun key => if key == "colour" then some "color" else among ["background", "color"] key)
    (fun s field path n => do
      let text ← optional decodeText path n
      match field with
      | "background" => return { s with background := text }
      | _ => return { s with colour := text })
    ⟨none, none⟩

def boxFields : List String :=
  ["label", "description", "technology", "zoom", "style", "ports", "children", "actors", "actor"]

/-- The boxes of a map by their names, at most `depth` levels of them.  A missing definition leaves a bare name. -/
def decodeBoxes : Nat → Decoder (List RawBox)
  | 0, _, n => .error (.tooDeep n.mark)
  | depth + 1, path, n => do
      let boxes ← decodeMap (fun name path n => do
        let read : Decoder (RawBoxFacts × List RawBox × List RawBox) :=
          decodeRecord "struct RawBox" (among boxFields)
            (fun (facts, children, actors) field path n => do
              let text := optional decodeText path n
              let boxes : Except YamlFault (List RawBox) := do
                return (← optional (decodeBoxes depth) path n).getD []
              match field with
              | "label" => return ({ facts with label := ← text }, children, actors)
              | "description" => return ({ facts with description := ← text }, children, actors)
              | "technology" => return ({ facts with technology := ← text }, children, actors)
              | "zoom" => return ({ facts with zoom := ← text }, children, actors)
              | "style" => return ({ facts with style := ← optional decodeBoxStyle path n }, children, actors)
              | "ports" =>
                  let ports ← optional (decodeMap decodePort) path n
                  return ({ facts with ports := (ports.getD []).map (·.2) }, children, actors)
              | "children" => return (facts, ← boxes, actors)
              | "actors" => return (facts, children, ← boxes)
              | _ => return ({ facts with actor := ← optional decodeBool path n }, children, actors))
            (.empty, [], [])
        return (← optional read path n).elim (.bare name) fun (facts, children, actors) =>
          .mk name facts children actors) path n
      return boxes.map (·.2)

def decodeEdge : Decoder RawEdge :=
  decodeRecord "struct RawEdge" (among ["from", "to", "label", "colour", "style"])
    (fun e field path n => do
      let text := optional decodeText path n
      match field with
      | "from" => return { e with source := ← text }
      | "to" => return { e with target := ← text }
      | "label" => return { e with label := ← text }
      | "colour" => return { e with colour := ← text }
      | _ => return { e with style := ← optional (decodeVariant "RawEdgeStyle" readEdgeStyle?) path n })
    ⟨none, none, none, none, none⟩

def decodeStyle : Decoder (RawStyle Float32) :=
  decodeRecord "struct RawStyle" (among ["font", "borderWeight", "backgrounds"])
    (fun s field path n => do
      match field with
      | "font" => return { s with font := ← optional decodeText path n }
      | "borderWeight" =>
          let weights ← optional (decodeVariant "OneOrMany" (oneOrMany? readNumber?)) path n
          return { s with borderWeights := weights.map fun ws => ws.map YamlNumber.toFloat32 }
      | _ =>
          return { s with
                   backgrounds := ← optional (decodeVariant "OneOrMany" (oneOrMany? readText?)) path n })
    ⟨none, none, none⟩

def decodeLegend : Decoder RawLegend :=
  decodeRecord "struct RawLegend" (among ["edgeColours", "portTable"])
    (fun l field path n => do
      match field with
      | "edgeColours" =>
          return { l with edgeColours := (← optional (decodeMap fun _ => decodeText) path n).getD [] }
      | _ => return { l with portTable := ← optional decodeBool path n })
    ⟨[], none⟩

def decodeMetadata : Decoder Metadata :=
  decodeRecord "struct RawMetadata" (among ["author", "date", "version", "status", "scope"])
    (fun m field path n => do
      let text ← optional decodeText path n
      match field with
      | "author" => return { m with author := text }
      | "date" => return { m with date := text }
      | "version" => return { m with version := text }
      | "status" => return { m with status := text }
      | _ => return { m with scope := text })
    ⟨none, none, none, none, none⟩

def documentFields : List String :=
  ["diagram", "title", "flow", "dpi", "style", "boxes", "edges", "legend", "metadata"]

def decodeDocument (root : Node) : Except YamlFault (RawDocument Float32) :=
  decodeRecord "struct RawDocument" (among documentFields)
    (fun d field path n => do
      let text := optional decodeText path n
      match field with
      | "diagram" => return { d with diagram := ← text }
      | "title" => return { d with title := ← text }
      | "flow" => return { d with flow := ← text }
      | "dpi" => return { d with dpi := ← optional decodeNat32 path n }
      | "style" => return { d with style := ← optional decodeStyle path n }
      | "boxes" => return { d with boxes := (← optional (decodeBoxes nestingLimit) path n).getD [] }
      | "edges" => return { d with edges := (← optional (decodeList decodeEdge) path n).getD [] }
      | "legend" => return { d with legend := ← optional decodeLegend path n }
      | _ => return { d with metadata := ← optional decodeMetadata path n })
    ⟨none, none, none, none, none, [], [], none, none⟩ [] root

end BoxDiagram
