/-
Module: BoxDiagram.Proofs.MissingTexts
Purpose: Empty texts in a document mean the same as missing ones.  Whichever of them are left out, at any depth, the
  document describes the same diagram, and so the validation of the diagram reports the same faults.
Main exports: TextOmits, RawBox.Omits, EdgeStyleOmits, RawDocument.Omits, RawDocument.lower_omits
-/
import BoxDiagram.Diagram.Validation
import BoxDiagram.Document.Lower
import Mathlib.Data.List.Forall2
import Mathlib.Data.List.TakeWhile

namespace BoxDiagram

/-! ### Texts that are left out -/

/-- A text is left as it is, or left out where it is empty. -/
inductive TextOmits : Option String → Option String → Prop where
  | same (text : Option String) : TextOmits text text
  | empty : TextOmits (some "") none

theorem TextOmits.present {x y : Option String} (omits : TextOmits x y) : present y = present x := by
  cases omits with
  | same => rfl
  | empty => rfl

/-- What is made of the members of a list is the same for a list of related ones, if it is for every two of them. -/
theorem map_eq_of_forall₂ {β γ : Type} {R : β → β → Prop} {f : β → γ} {xs ys : List β}
    (related : List.Forall₂ R xs ys) (same : ∀ a b, R a b → f b = f a) : ys.map f = xs.map f := by
  induction related with
  | nil => rfl
  | cons head _ ih => simp only [List.map_cons, same _ _ head, ih]

/-! ### Ports and boxes -/

/-- A port with some of its empty texts left out. -/
structure RawPort.Omits (p q : RawPort) : Prop where
  id : q.id = p.id
  dir : TextOmits p.dir q.dir
  label : TextOmits p.label q.label
  side : TextOmits p.side q.side

theorem RawPort.Omits.lower {p q : RawPort} (omits : p.Omits q) : q.lower = p.lower := by
  simp only [RawPort.lower, RawPort.lowerSide, omits.id, omits.dir.present, omits.label.present, omits.side.present]

/-- The style of a box with some of its empty texts left out. -/
structure RawBoxStyle.Omits (s t : RawBoxStyle) : Prop where
  background : TextOmits s.background t.background
  colour : TextOmits s.colour t.colour

theorem lowerBoxStyle_omits {s t : Option RawBoxStyle} (omits : Option.Rel RawBoxStyle.Omits s t) :
    lowerBoxStyle t = lowerBoxStyle s := by
  cases omits with
  | none => rfl
  | some style => simp only [lowerBoxStyle, style.background.present, style.colour.present]

/-- What is said about a box, with some of the empty texts left out. -/
structure RawBoxFacts.Omits (f g : RawBoxFacts) : Prop where
  label : TextOmits f.label g.label
  description : TextOmits f.description g.description
  technology : TextOmits f.technology g.technology
  zoom : TextOmits f.zoom g.zoom
  style : Option.Rel RawBoxStyle.Omits f.style g.style
  ports : List.Forall₂ RawPort.Omits f.ports g.ports
  actor : g.actor = f.actor

theorem RawBoxFacts.Omits.lower {f g : RawBoxFacts} (omits : f.Omits g) (name : String) (depth : Nat) :
    g.lower name depth = f.lower name depth := by
  simp only [RawBoxFacts.lower, omits.label.present, omits.description.present, omits.technology.present,
    omits.zoom.present, omits.actor, lowerBoxStyle_omits omits.style, map_eq_of_forall₂ omits.ports fun _ _ => RawPort.Omits.lower]

theorem RawBoxFacts.Omits.empty : RawBoxFacts.empty.Omits .empty :=
  ⟨.same _, .same _, .same _, .same _, .none, .nil, rfl⟩

/-- A box with some of the empty texts left out, in it and in the boxes and actors inside it. -/
inductive RawBox.Omits : RawBox → RawBox → Prop where
  | bare (name : String) : Omits (.bare name) (.bare name)
  | mk {name : String} {f g : RawBoxFacts} {children children' actors actors' : List RawBox} (facts : f.Omits g)
      (inside : List.Forall₂ Omits children children') (entries : List.Forall₂ Omits actors actors') :
      Omits (.mk name f children actors) (.mk name g children' actors')

theorem RawBox.Omits.name {a b : RawBox} (omits : a.Omits b) : b.name = a.name := by
  cases omits with
  | bare => rfl
  | mk => rfl

theorem RawBox.Omits.facts {a b : RawBox} (omits : a.Omits b) : a.facts.Omits b.facts := by
  cases omits with
  | bare => exact .empty
  | mk facts => exact facts

/-- An actor is made of the name of its entry and of what is said about it, whatever else stands in the entry. -/
theorem RawBox.Omits.lowerActor {a b : RawBox} (depth : Nat) (omits : a.Omits b) :
    lowerActor depth b = lowerActor depth a := by
  simp only [BoxDiagram.lowerActor, omits.name, omits.facts.lower]

-- The induction is on the boxes of the document, whose recursion the lowering follows.
mutual

theorem RawBox.Omits.lowerBox : ∀ {a b : RawBox} (depth : Nat), a.Omits b → lowerBox depth b = lowerBox depth a
  | .bare _, _, _, .bare _ => rfl
  | .mk _ _ _ _, _, depth, .mk facts inside entries => by
      simp only [BoxDiagram.lowerBox, facts.lower, lowerBoxes_omits (depth + 1) inside,
        map_eq_of_forall₂ entries fun _ _ => RawBox.Omits.lowerActor (depth + 1)]

theorem lowerBoxes_omits : ∀ {as bs : List RawBox} (depth : Nat),
    List.Forall₂ RawBox.Omits as bs → lowerBoxes depth bs = lowerBoxes depth as
  | [], _, _, .nil => rfl
  | _ :: _, _, depth, .cons head rest => by
      simp only [lowerBoxes, head.lowerBox depth, lowerBoxes_omits depth rest]

end

mutual

theorem RawBox.Omits.actorNamesOf : ∀ {a b : RawBox}, a.Omits b → actorNamesOf b = actorNamesOf a
  | .bare _, _, .bare _ => rfl
  | .mk _ _ _ _, _, .mk facts inside entries => by
      simp only [BoxDiagram.actorNamesOf, facts.actor, actorNames_omits inside,
        map_eq_of_forall₂ entries fun _ _ => RawBox.Omits.name]

theorem actorNames_omits : ∀ {as bs : List RawBox}, List.Forall₂ RawBox.Omits as bs → actorNames bs = actorNames as
  | [], _, .nil => rfl
  | _ :: _, _, .cons head rest => by
      simp only [actorNames, head.actorNamesOf, actorNames_omits rest]

end

/-! ### Edges -/

/-- The style of an edge with its colour left out if it is empty, or left out itself if it is a keyword of blanks. -/
inductive EdgeStyleOmits : Option RawEdgeStyle → Option RawEdgeStyle → Prop where
  | same (style : Option RawEdgeStyle) : EdgeStyleOmits style style
  | keyword {word : String} (blank : ∀ c ∈ word.toList, Text.isBlank c = true) :
      EdgeStyleOmits (some (.keyword word)) none
  | colour {x y : Option String} (dashed : Option Bool) (omits : TextOmits x y) :
      EdgeStyleOmits (some (.options x dashed)) (some (.options y dashed))

theorem styleWord_of_blank {word : String} (blank : ∀ c ∈ word.toList, Text.isBlank c = true) :
    styleWord word = "" := by
  have nothing : word.toList.dropWhile Text.isBlank = [] := List.dropWhile_eq_nil_iff.mpr blank
  simp [styleWord, Text.trim, Text.trimList, Text.trimEndList, nothing]

theorem EdgeStyleOmits.lower {s t : Option RawEdgeStyle} (omits : EdgeStyleOmits s t) :
    lowerEdgeStyle t = lowerEdgeStyle s := by
  cases omits with
  | same => rfl
  | keyword blank => simp [lowerEdgeStyle, styleWord_of_blank blank]
  | colour dashed omits => simp only [lowerEdgeStyle, omits.present]

/-- An edge with some of its empty texts left out. -/
structure RawEdge.Omits (e f : RawEdge) : Prop where
  source : TextOmits e.source f.source
  target : TextOmits e.target f.target
  label : TextOmits e.label f.label
  colour : TextOmits e.colour f.colour
  style : EdgeStyleOmits e.style f.style

theorem RawEdge.Omits.lower {e f : RawEdge} (omits : e.Omits f) : f.lower = e.lower := by
  simp only [RawEdge.lower, lowerEndpoint, omits.source.present, omits.target.present, omits.label.present,
    omits.colour.present, omits.style.lower]

/-! ### Documents -/

/-- Metadata with some of the empty texts left out. -/
structure Metadata.Omits (m n : Metadata) : Prop where
  author : TextOmits m.author n.author
  date : TextOmits m.date n.date
  version : TextOmits m.version n.version
  status : TextOmits m.status n.status
  scope : TextOmits m.scope n.scope

theorem lowerMetadata_omits {m n : Option Metadata} (omits : Option.Rel Metadata.Omits m n) :
    n.map lowerMetadata = m.map lowerMetadata := by
  cases omits with
  | none => rfl
  | some all =>
      simp only [Option.map_some, lowerMetadata, all.author.present, all.date.present, all.version.present,
        all.status.present, all.scope.present]

section Documents

variable {α : Type}

/-- The style of a diagram with the font left out if it is empty. -/
structure RawStyle.Omits (s t : RawStyle α) : Prop where
  font : TextOmits s.font t.font
  borderWeights : t.borderWeights = s.borderWeights
  backgrounds : t.backgrounds = s.backgrounds

/-- A document with some of its empty texts left out, anywhere in it. -/
structure RawDocument.Omits (d e : RawDocument α) : Prop where
  diagram : TextOmits d.diagram e.diagram
  title : TextOmits d.title e.title
  flow : TextOmits d.flow e.flow
  dpi : e.dpi = d.dpi
  style : Option.Rel RawStyle.Omits d.style e.style
  boxes : List.Forall₂ RawBox.Omits d.boxes e.boxes
  edges : List.Forall₂ RawEdge.Omits d.edges e.edges
  legend : e.legend = d.legend
  metadata : Option.Rel Metadata.Omits d.metadata e.metadata

variable [Scalar α]

theorem lowerStyle_omits {s t : Option (RawStyle α)} (omits : Option.Rel RawStyle.Omits s t) :
    lowerStyle t = lowerStyle s := by
  cases omits with
  | none => rfl
  | some style => simp only [lowerStyle, style.font.present, style.borderWeights, style.backgrounds]

/-- A document describes the same diagram when empty texts are left out, so the same faults are found in it. -/
theorem RawDocument.lower_omits {d e : RawDocument α} (omits : d.Omits e) :
    e.lower = d.lower ∧ e.lower.validate = d.lower.validate := by
  have sameDiagram : e.lower = d.lower := by
    simp only [RawDocument.lower, omits.diagram.present, omits.title.present, omits.flow.present, omits.dpi,
      lowerStyle_omits omits.style, lowerBoxes_omits 0 omits.boxes, actorNames_omits omits.boxes,
      map_eq_of_forall₂ omits.edges fun _ _ => RawEdge.Omits.lower, omits.legend, lowerMetadata_omits omits.metadata]
  exact ⟨sameDiagram, congrArg Diagram.validate sameDiagram⟩

end Documents

/-- A document with empty texts at every depth, also where it means an end of an edge. -/
def blankTexts : RawDocument Float32 where
  diagram := some "D"
  title := some ""
  flow := some ""
  dpi := none
  style := some ⟨some "", none, none⟩
  boxes := [
    .mk "Shop"
      { RawBoxFacts.empty with
        label := some "", style := some ⟨some "", some "red"⟩, ports := [⟨"in", some "", some "", some ""⟩] }
      [.mk "Store" { RawBoxFacts.empty with description := some "files", technology := some "", zoom := some "" } [] []]
      [.mk "User" { RawBoxFacts.empty with description := some "" } [] []]]
  edges := [
    ⟨some "Shop:in", some "", some "", none, some (.keyword "")⟩,
    ⟨some "User", some "Store", none, some "", some (.options (some "") (some true))⟩]
  legend := none
  metadata := some ⟨some "", none, some "1.2", some "", none⟩

/-- The same document without these texts, but for the title. -/
def missingTexts : RawDocument Float32 where
  diagram := some "D"
  title := some ""
  flow := none
  dpi := none
  style := some ⟨none, none, none⟩
  boxes := [
    .mk "Shop" { RawBoxFacts.empty with style := some ⟨none, some "red"⟩, ports := [⟨"in", none, none, none⟩] }
      [.mk "Store" { RawBoxFacts.empty with description := some "files" } [] []]
      [.mk "User" .empty [] []]]
  edges := [
    ⟨some "Shop:in", none, none, none, none⟩,
    ⟨some "User", some "Store", none, none, some (.options none (some true))⟩]
  legend := none
  metadata := some ⟨none, none, some "1.2", none, none⟩

theorem blankTexts_omits : blankTexts.Omits missingTexts where
  diagram := .same _
  title := .same _
  flow := .empty
  dpi := rfl
  style := .some ⟨.empty, rfl, rfl⟩
  boxes := by
    have port : RawPort.Omits ⟨"in", some "", some "", some ""⟩ ⟨"in", none, none, none⟩ :=
      ⟨rfl, .empty, .empty, .empty⟩
    have store : RawBox.Omits
        (.mk "Store" { RawBoxFacts.empty with description := some "files", technology := some "", zoom := some "" } [] [])
        (.mk "Store" { RawBoxFacts.empty with description := some "files" } [] []) :=
      .mk ⟨.same _, .same _, .empty, .empty, .none, .nil, rfl⟩ .nil .nil
    have user : RawBox.Omits (.mk "User" { RawBoxFacts.empty with description := some "" } [] [])
        (.mk "User" .empty [] []) :=
      .mk ⟨.same _, .empty, .same _, .same _, .none, .nil, rfl⟩ .nil .nil
    exact .cons (.mk ⟨.empty, .same _, .same _, .same _, .some ⟨.empty, .same _⟩, .cons port .nil, rfl⟩
      (.cons store .nil) (.cons user .nil)) .nil
  edges := .cons ⟨.same _, .empty, .empty, .same _, .keyword (by simp)⟩
    (.cons ⟨.same _, .same _, .same _, .empty, .colour _ .empty⟩ .nil)
  legend := rfl
  metadata := .some ⟨.empty, .same _, .same _, .empty, .same _⟩

/-- An end that is missing is reported in the same words as an empty one. -/
theorem missingTexts_lower :
    blankTexts.Omits missingTexts ∧ missingTexts.lower = blankTexts.lower ∧
      missingTexts.lower.validate = [.badEndpoint 0 .target "" .missing] ∧
      blankTexts.lower.validate = [.badEndpoint 0 .target "" .missing] := by
  obtain ⟨sameDiagram, sameFaults⟩ := RawDocument.lower_omits blankTexts_omits
  have faults : blankTexts.lower.validate = [.badEndpoint 0 .target "" .missing] := by decide +kernel
  exact ⟨blankTexts_omits, sameDiagram, sameFaults.trans faults, faults⟩

end BoxDiagram
