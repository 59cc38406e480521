/-
Module: BoxDiagram.Document.Lower
Purpose: The diagram that a raw document describes, with its defaults filled in.  An empty text means the same
  as a missing one.
Main exports: present, lowerBox, lowerBoxes, actorNames, lowerEdge, RawDocument.lower, RawDocument.notices
-/
import BoxDiagram.Document.Raw
import BoxDiagram.Notice

namespace BoxDiagram

/-- A text that is there and not empty. -/
def present (text : Option String) : Option String := text.filter (· != "")

/-! ### Ports and boxes -/

/-- The side that a port asks for, if it is one. -/
def RawPort.lowerSide (p : RawPort) : Option PortSide := (present p.side).bind PortSide.ofWord?

/-- A port; without a direction it is an input. -/
def RawPort.lower (p : RawPort) : Port :=
  { id := p.id
    direction := (present p.dir).elim .input PortDirection.ofWord
    label? := present p.label
    side := p.lowerSide }

/-- The style of a box; without one, nothing is stated. -/
def lowerBoxStyle (style : Option RawBoxStyle) : BoxStyle :=
  match style with
  | some s => ⟨present s.background, present s.colour⟩
  | none => ⟨none, none⟩

/-- A box at a depth, without what is inside it. -/
def RawBoxFacts.lower (f : RawBoxFacts) (name : String) (depth : Nat) : Box :=
  { name := name
    label? := present f.label
    description := present f.description
    technology := present f.technology
    depth := depth
    zoom := present f.zoom
    style := lowerBoxStyle f.style
    ports := f.ports.map RawPort.lower
    isActor := f.actor.getD false }

/-- An entry of `actors` at a depth.  It is a leaf without technology and zoom. -/
def lowerActor (depth : Nat) (b : RawBox) : Tree Box :=
  .node
    { b.facts.lower b.name depth with
      technology := none
      zoom := none
      isActor := true }
    []

mutual

/-- A box at a depth with the boxes inside it: first the entries of `children`, then those of `actors`.  A bare name
is a box about which nothing is said. -/
def lowerBox (depth : Nat) : RawBox → Tree Box
  | .bare name => .node (RawBoxFacts.empty.lower name depth) []
  | .mk name facts children actors =>
      .node (facts.lower name depth) (lowerBoxes (depth + 1) children ++ actors.map (lowerActor (depth + 1)))

def lowerBoxes (depth : Nat) : List RawBox → List (Tree Box)
  | [] => []
  | b :: bs => lowerBox depth b :: lowerBoxes depth bs

end

mutual

/-- Names of the actors in a box: itself if it is one, then its `actors`, then those in its `children`.  A bare name
is passed over. -/
def actorNamesOf : RawBox → List String
  | .bare _ => []
  | .mk name facts children actors =>
      (if facts.actor == some true then [name] else []) ++ actors.map RawBox.name ++ actorNames children

/-- Names of the actors in the boxes of a list. -/
def actorNames : List RawBox → List String
  | [] => []
  | b :: bs => actorNamesOf b ++ actorNames bs

end

/-! ### Edges -/

/-- The word of a style keyword, blanks at its ends apart. -/
def styleWord (keyword : String) : String := Text.trim keyword

def isStyleWord (word : String) : Bool := word == "dashed" || word == "solid" || word == ""

/-- The style of an edge.  An unknown keyword is a solid line. -/
def lowerEdgeStyle : Option RawEdgeStyle → EdgeStyle
  | none => .plain
  | some (.keyword keyword) => if styleWord keyword == "dashed" then ⟨none, true⟩ else .plain
  | some (.options colour dashed) => ⟨present colour, dashed.getD false⟩

def lowerEndpoint (reference : Option String) : EdgeEndpoint := .parse ((present reference).getD "")

def RawEdge.lower (e : RawEdge) : Edge :=
  { source := lowerEndpoint e.source
    target := lowerEndpoint e.target
    label := present e.label
    colour := present e.colour
    style := lowerEdgeStyle e.style }

/-! ### Documents -/

/-- The style of the whole diagram, field by field over the defaults. -/
def lowerStyle {α : Type} [Scalar α] (style : Option (RawStyle α)) : StyleDefaults α :=
  match style with
  | none => .plain
  | some s =>
      let plain : StyleDefaults α := .plain
      { font := (present s.font).getD plain.font
        borderWeights := s.borderWeights.getD plain.borderWeights
        backgrounds := s.backgrounds.getD plain.backgrounds }

/-- The legend; without one, nothing is explained. -/
def lowerLegend : Option RawLegend → Legend
  | none => ⟨[], false⟩
  | some l => ⟨l.edgeColours, l.portTable.getD false⟩

def lowerMetadata (m : Metadata) : Metadata :=
  ⟨present m.author, present m.date, present m.version, present m.status, present m.scope⟩

/-- The diagram that a document describes. -/
def RawDocument.lower {α : Type} [Scalar α] (d : RawDocument α) : Diagram α :=
  { name := present d.diagram
    title := present d.title
    flow := (present d.flow).elim .leftToRight FlowDirection.ofWord
    dpi := (d.dpi.filter (0 < ·)).getD Diagram.defaultDpi
    style := lowerStyle d.style
    boxes := lowerBoxes 0 d.boxes
    actors := actorNames d.boxes
    edges := d.edges.map RawEdge.lower
    legend := lowerLegend d.legend
    metadata := d.metadata.map lowerMetadata }

/-! ### Notices -/

/-- A notice for every port of a box whose side is none of the four. -/
def portNotices (boxName : String) (ports : List RawPort) : List Notice :=
  ports.filterMap fun p =>
    match present p.side with
    | some side => if p.lowerSide.isNone then some (.unknownSide boxName p.id side) else none
    | none => none

mutual

/-- The notices about a box: first those about the boxes inside it. -/
def boxNotices : RawBox → List Notice
  | .bare _ => []
  | .mk name facts children actors =>
      boxesNotices children ++ actors.flatMap (fun a => portNotices a.name a.facts.ports) ++
        portNotices name facts.ports

/-- The notices about the boxes of a list. -/
def boxesNotices : List RawBox → List Notice
  | [] => []
  | b :: bs => boxNotices b ++ boxesNotices bs

end

/-- A notice for an edge whose style keyword is unknown. -/
def edgeNotice? (e : RawEdge) : Option Notice :=
  match e.style with
  | some (.keyword keyword) =>
      let word := styleWord keyword
      if isStyleWord word then none
      else some (.unknownEdgeStyle e.lower.source.display e.lower.target.display word)
  | _ => none

/-- What is passed over when a document is read. -/
def RawDocument.notices {α : Type} (d : RawDocument α) : List Notice :=
  boxesNotices d.boxes ++ d.edges.filterMap edgeNotice?

end BoxDiagram
