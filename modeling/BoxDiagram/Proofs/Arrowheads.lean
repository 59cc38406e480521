/-
Module: BoxDiagram.Proofs.Arrowheads
Purpose: The arrowheads of a drawing.  Every colour of an edge has a definition, and a path finds its own one exactly if
  the ids of the definitions tell the colours apart.  They keep the letters and digits of a colour only, so two colours
  may share an id.
Main exports: InOrderOfUse, distinctColours_inOrderOfUse, draw_markers, OwnArrowhead, ToldApart, arrowheads_own_iff,
  shared_arrowhead
-/
import BoxDiagram.Diagram.Validation
import BoxDiagram.Proofs.DrawnDocument
import Mathlib.Data.List.Induction
import Mathlib.Data.List.Nodup

namespace BoxDiagram

/-! ### Colours, each once -/

/-- These are the colours of `uses`, each once, in the order in which they are first used. -/
structure InOrderOfUse (uses colours : List String) : Prop where
  mem (c : String) : c ∈ colours ↔ c ∈ uses
  order : colours.Pairwise fun a b => uses.idxOf a < uses.idxOf b

/-- A colour that is used once more is kept if it is new. -/
theorem distinctColours_append_singleton (uses : List String) (c : String) :
    distinctColours (uses ++ [c]) =
      if c ∈ distinctColours uses then distinctColours uses else distinctColours uses ++ [c] := by
  simp only [distinctColours, List.foldl_append, List.foldl_cons, List.foldl_nil, List.contains_iff_mem]

/-- The distinct colours of a list are in the order of their first use.  The induction is from the end of the list: the
last use is later than all uses before it. -/
theorem distinctColours_inOrderOfUse (uses : List String) : InOrderOfUse uses (distinctColours uses) := by
  induction uses using List.reverseRecOn with
  | nil => exact ⟨fun _ => Iff.rfl, List.Pairwise.nil⟩
  | append_singleton uses c ih =>
      have before : ∀ a ∈ distinctColours uses, (uses ++ [c]).idxOf a = uses.idxOf a :=
        fun a mem => List.idxOf_append_of_mem ((ih.mem a).mp mem)
      have order : (distinctColours uses).Pairwise fun a b => (uses ++ [c]).idxOf a < (uses ++ [c]).idxOf b := by
        refine ih.order.imp_of_mem fun {a b} aMem bMem less => ?_
        rw [before a aMem, before b bMem]
        exact less
      rw [distinctColours_append_singleton]
      by_cases known : c ∈ distinctColours uses
      · rw [if_pos known]
        refine ⟨fun a => ?_, order⟩
        rw [ih.mem, List.mem_append, List.mem_singleton]
        constructor
        · exact .inl
        · rintro (used | rfl)
          · exact used
          · exact (ih.mem a).mp known
      · have unused : c ∉ uses := fun used => known ((ih.mem c).mpr used)
        rw [if_neg known]
        refine ⟨fun a => by rw [List.mem_append, List.mem_append, ih.mem], ?_⟩
        refine List.pairwise_append.mpr ⟨order, List.pairwise_singleton _ _, fun a mem b isLast => ?_⟩
        rw [List.mem_singleton.mp isLast, before a mem, List.idxOf_append_of_notMem unused]
        exact Nat.lt_of_lt_of_le (List.idxOf_lt_length_of_mem ((ih.mem a).mp mem)) (Nat.le_add_right _ _)

theorem distinctColours_nodup (colours : List String) : (distinctColours colours).Nodup :=
  (distinctColours_inOrderOfUse colours).order.imp fun less same =>
    Nat.ne_of_lt less (congrArg (colours.idxOf ·) same)

@[simp] theorem mem_distinctColours {colours : List String} {c : String} :
    c ∈ distinctColours colours ↔ c ∈ colours :=
  (distinctColours_inOrderOfUse colours).mem c

/-- Of different colours that are told apart by something, one alone has it. -/
theorem filter_distinctColours_eq {β : Type} [DecidableEq β] {f : String → β} {colours : List String} {c : String}
    (mem : c ∈ colours) (apart : ∀ b ∈ colours, f b = f c → b = c) :
    (distinctColours colours).filter (fun b => f b = f c) = [c] := by
  have same : (distinctColours colours).filter (fun b => f b = f c) = (distinctColours colours).filter (· = c) := by
    refine List.filter_congr fun b isColour => decide_eq_decide.mpr ⟨apart b (mem_distinctColours.mp isColour), ?_⟩
    rintro rfl
    rfl
  have once := List.count_eq_one_of_mem (distinctColours_nodup colours) (mem_distinctColours.mpr mem)
  rw [same, List.filter_eq, once, List.replicate_one]

/-! ### Definitions of arrowheads -/

theorem named_arrowMarker (colour : String) : (arrowMarker colour).named "marker" = [arrowMarker colour] := by
  rw [arrowMarker, Svg.Node.named, if_pos rfl]
  rfl

/-- The definitions have one arrowhead for every colour. -/
theorem markerDefinitions_markers (colours : List String) :
    (markerDefinitions colours).named "marker" = (distinctColours colours).map arrowMarker := by
  rw [markerDefinitions, Svg.Node.named_element (by decide), Svg.Node.namedIn_eq_flatMap, List.flatMap_map,
    List.map_eq_flatMap]
  exact List.flatMap_congr fun colour _ => named_arrowMarker colour

section Drawings

variable {α : Type} [NumberText α]

variable [Scalar α]

/-- The content of a drawing has no other special elements than paths. -/
theorem namedIn_content_eq_nil [Metric α] {d : Diagram α} {style : DrawingStyle α} {g : PositionedGraph α}
    {name : String} (special : name ∉ plainElements) (notPath : "path" ≠ name) :
    Svg.Node.namedIn name ((draw d style g).content.map DrawnItem.toSvg).render = [] := by
  refine LayeredOutput.namedIn_render_eq_nil (plain_ne (by decide) special) fun i mem => ?_
  obtain ⟨⟨layer, item⟩, -, rfl⟩ := List.mem_map.mp mem
  cases noLine : item.line? with
  | none => exact named_item special noLine
  | some l =>
      cases item with
      | line l => exact (Svg.Node.named_element notPath _ _).trans rfl
      | box _ | ports _ | labelBack _ | labelText _ => exact absurd noLine.symm (Option.some_ne_none l)

variable [Metric α] {d : Diagram α} {style : DrawingStyle α} {g : PositionedGraph α}

/-- The arrowheads of a document are those of its marker colours, each once. -/
theorem draw_markers : (draw d style g).toSvg.named "marker" =
    (distinctColours (draw d style g).markerColours).map arrowMarker := by
  rw [Drawing.named_toSvg (by decide) _ (by decide), namedIn_content_eq_nil (by decide) (by decide), List.append_nil,
    markerDefinitions_markers]

/-- A path of a document is the line of an edge, in a marker colour of the drawing. -/
theorem exists_line_of_path {path : Svg.Node} (mem : path ∈ (draw d style g).toSvg.named "path") :
    ∃ l : EdgeLine α, path = l.toSvg ∧ l.colour ∈ (draw d style g).markerColours := by
  rw [draw_paths] at mem
  obtain ⟨l, isLine, rfl⟩ := List.mem_map.mp mem
  obtain ⟨p, isEdge, ofEdge⟩ := List.mem_flatMap.mp isLine
  obtain ⟨points, -, rfl⟩ := List.mem_map.mp ofEdge
  exact ⟨_, rfl, List.mem_cons_of_mem _ (List.mem_map_of_mem isEdge)⟩

end Drawings

/-! ### References -/

namespace Svg.Node

/-- The value of an attribute that refers to the element with an id. -/
def reference (id : String) : String := "url(#" ++ id ++ ")"

theorem reference_injective : Function.Injective reference := by
  intro a b same
  exact (String.append_right_inj _).mp ((String.append_left_inj _).mp same)

/-- The markers of a document that a reference names. -/
def referredMarkers (document : Node) (ref : String) : List Node :=
  (document.named "marker").filter fun m => (m.attribute? "id").map reference = some ref

/-- The colour of an arrowhead: the fill of its shape. -/
def arrowColour? : Node → Option String
  | .element _ _ [shape] => shape.attribute? "fill"
  | _ => none

@[simp] theorem attribute?_arrowMarker (colour : String) : (arrowMarker colour).attribute? "id" = some (markerId colour) :=
  rfl

end Svg.Node

/-- The reference at the end of a path names a single marker, and this has the colour of the path. -/
def OwnArrowhead (document path : Svg.Node) : Prop :=
  ∃ stroke ref marker, path.attribute? "stroke" = some stroke ∧ path.attribute? "marker-end" = some ref ∧
    document.referredMarkers ref = [marker] ∧ marker.arrowColour? = some stroke

/-- No two of these colours have the same letters and digits. -/
def ToldApart (colours : List String) : Prop :=
  ∀ a ∈ colours, ∀ b ∈ colours, a.toList.filter Char.isAlphanum = b.toList.filter Char.isAlphanum → a = b

theorem markerId_eq_iff {a b : String} :
    markerId a = markerId b ↔ a.toList.filter Char.isAlphanum = b.toList.filter Char.isAlphanum := by
  rw [markerId, markerId, String.append_right_inj, String.ofList_inj]

section Main

variable {α : Type} [NumberText α]

theorem stroke_line (l : EdgeLine α) : l.toSvg.attribute? "stroke" = some l.colour := rfl

theorem markerEnd_line (l : EdgeLine α) :
    l.toSvg.attribute? "marker-end" = some (Svg.Node.reference (markerId l.colour)) := rfl

variable [Scalar α] [Metric α] (d : Diagram α) (style : DrawingStyle α) (g : PositionedGraph α)

/-- The markers with the id of a colour are the arrowheads of all colours with this id. -/
theorem referredMarkers_draw (colour : String) :
    (draw d style g).toSvg.referredMarkers (Svg.Node.reference (markerId colour)) =
      ((distinctColours (draw d style g).markerColours).filter fun c => markerId c = markerId colour).map
        arrowMarker := by
  rw [Svg.Node.referredMarkers, draw_markers, List.filter_map]
  congr 2
  funext c
  rw [Function.comp_apply, Svg.Node.attribute?_arrowMarker, Option.map_some, decide_eq_decide, Option.some.injEq]
  exact Svg.Node.reference_injective.eq_iff

theorem markerIds_draw :
    ((draw d style g).toSvg.named "marker").map (Svg.Node.attribute? "id") =
      (distinctColours (draw d style g).markerColours).map fun c => some (markerId c) := by
  rw [draw_markers, List.map_map]
  rfl

/-- The markers of a document have different ids, and every path finds its own arrowhead, exactly if no two colours of
the drawing have the same letters and digits.  In any case the arrowhead of every path is among the markers that the path
refers to. -/
theorem arrowheads_own_iff :
    ((((draw d style g).toSvg.named "marker").map (Svg.Node.attribute? "id")).Nodup ∧
      (∀ path ∈ (draw d style g).toSvg.named "path", OwnArrowhead (draw d style g).toSvg path) ↔
        ToldApart (draw d style g).markerColours) ∧
    ∀ path ∈ (draw d style g).toSvg.named "path", ∃ stroke ref marker,
      path.attribute? "stroke" = some stroke ∧ path.attribute? "marker-end" = some ref ∧
        marker ∈ (draw d style g).toSvg.referredMarkers ref ∧ marker.arrowColour? = some stroke := by
  refine ⟨⟨?_, fun apart => ⟨?_, ?_⟩⟩, ?_⟩
  · rintro ⟨nodup, -⟩ a aMem b bMem same
    rw [markerIds_draw] at nodup
    exact List.inj_on_of_nodup_map nodup (mem_distinctColours.mpr aMem) (mem_distinctColours.mpr bMem)
      (congrArg some (markerId_eq_iff.mpr same))
  · rw [markerIds_draw]
    refine (distinctColours_nodup _).map_on fun a aMem b bMem same => ?_
    exact apart a (mem_distinctColours.mp aMem) b (mem_distinctColours.mp bMem)
      (markerId_eq_iff.mp (Option.some.inj same))
  · intro path isPath
    obtain ⟨l, rfl, isColour⟩ := exists_line_of_path isPath
    refine ⟨l.colour, _, arrowMarker l.colour, stroke_line l, markerEnd_line l, ?_, rfl⟩
    have alone : ∀ b ∈ (draw d style g).markerColours, markerId b = markerId l.colour → b = l.colour :=
      fun b bMem same => apart b bMem l.colour isColour (markerId_eq_iff.mp same)
    rw [referredMarkers_draw, filter_distinctColours_eq isColour alone]
    rfl
  · intro path isPath
    obtain ⟨l, rfl, isColour⟩ := exists_line_of_path isPath
    refine ⟨l.colour, _, arrowMarker l.colour, stroke_line l, markerEnd_line l, ?_, rfl⟩
    rw [referredMarkers_draw]
    refine List.mem_map_of_mem (List.mem_filter.mpr ⟨mem_distinctColours.mpr isColour, ?_⟩)
    exact decide_eq_true rfl

end Main

/-- Two boxes with an edge each way, in two colours with the same letters and digits. -/
def twoGreens : Diagram Float32 :=
  { name := some "D"
    title := none
    flow := .leftToRight
    dpi := Diagram.defaultDpi
    style := .plain
    boxes := [.node { (default : Box) with name := "A" } [], .node { (default : Box) with name := "B" } []]
    actors := []
    edges := [
      ⟨⟨"A", none⟩, ⟨"B", none⟩, none, none, ⟨some "rgb(1,23,4)", false⟩⟩,
      ⟨⟨"B", none⟩, ⟨"A", none⟩, none, none, ⟨some "rgb(12,3,4)", false⟩⟩]
    legend := ⟨[], false⟩
    metadata := none }

/-- A layout with a straight route for each of the two edges. -/
def twoRoutes : PositionedGraph Float32 :=
  { width := 460
    height := 50
    children := [
      .node ⟨"A", 0, 0, 150, 50, ["A"], []⟩ [],
      .node ⟨"B", 310, 0, 150, 50, ["B"], []⟩ []]
    edges := [
      ⟨"e0", some rootId, [⟨⟨150, 25⟩, ⟨310, 25⟩, []⟩], []⟩,
      ⟨"e1", some rootId, [⟨⟨310, 25⟩, ⟨150, 25⟩, []⟩], []⟩] }

/-- Two edges of different colours refer to one id, and there are two markers with it. -/
theorem shared_arrowhead :
    twoGreens.validate = [] ∧
      (draw twoGreens .standard twoRoutes).markerColours = ["#555", "rgb(1,23,4)", "rgb(12,3,4)"] ∧
      markerId "rgb(1,23,4)" = "arrow-rgb1234" ∧ markerId "rgb(12,3,4)" = "arrow-rgb1234" ∧
      ¬ ((((draw twoGreens .standard twoRoutes).toSvg.named "marker").map (Svg.Node.attribute? "id")).Nodup ∧
        ∀ path ∈ (draw twoGreens .standard twoRoutes).toSvg.named "path",
          OwnArrowhead (draw twoGreens .standard twoRoutes).toSvg path) := by
  have colours : (draw twoGreens .standard twoRoutes).markerColours = ["#555", "rgb(1,23,4)", "rgb(12,3,4)"] := by
    decide +kernel
  have first : markerId "rgb(1,23,4)" = "arrow-rgb1234" := by decide +kernel
  have second : markerId "rgb(12,3,4)" = "arrow-rgb1234" := by decide +kernel
  refine ⟨by decide +kernel, colours, first, second, ?_⟩
  rintro ⟨nodup, -⟩
  rw [markerIds_draw, colours] at nodup
  have repeated : ¬ ((distinctColours ["#555", "rgb(1,23,4)", "rgb(12,3,4)"]).map fun c => some (markerId c)).Nodup := by
    decide +kernel
  exact repeated nodup

end BoxDiagram
