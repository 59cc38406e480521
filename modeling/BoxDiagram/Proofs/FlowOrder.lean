/-
Module: BoxDiagram.Proofs.FlowOrder
Purpose: A layout with exact arithmetic runs along its direction.  Where the layering tells the sense of the edges, an
  edge between the children of a container leads to a child that lies beyond the first one, with the space of layers
  between them.
Main exports: packComponents_before, Direction.Leads, contentsOfForest, Placement.Flows, Placement.arrange_flows,
  layeredLayout_flows
-/
import BoxDiagram.Proofs.NestedLayout
import BoxDiagram.Proofs.RankOrder

namespace BoxDiagram

/-! ### Packed layers -/

section Packing

variable {spacing : Spacing ℚ} {s t : ℕ}

/-- Of two children in layers that follow one another, the second one is placed beyond the first one.  The induction
goes through the layers in front of both. -/
theorem stackLayers_before {size : ℕ → FlowSize ℚ} (spaced : spacing.NonNegative) (sized : ∀ i, (size i).NonNegative)
    (offset : ℚ) {extent : ℚ} (main : ℚ) {layers : Ranks}
    (short : ∀ layer ∈ layers, stackOf spacing size layer ≤ extent) (before : layers.Before s t) :
    ∃ first second,
      (s, first) ∈ stackLayers spacing offset extent main
        (layers.map fun layer => LayerExtent.of spacing (withSizes size layer)) ∧
      (t, second) ∈ stackLayers spacing offset extent main
        (layers.map fun layer => LayerExtent.of spacing (withSizes size layer)) ∧
      (flowBounds first (size s)).maxX + spacing.layer ≤ (flowBounds second (size t)).minX := by
  obtain ⟨front, layer, back, rfl, inLayer, inBack⟩ := before
  induction front generalizing main with
  | nil =>
      rw [List.nil_append] at short ⊢
      have members := stackMembers_fills spaced sized main (offset + (extent - stackOf spacing size layer) / 2.0)
        layer fun i => main_le_thicknessOf
      have later := stackLayers_fills spaced sized offset (main + (thicknessOf size layer + spacing.layer)) back
        fun other mem => short other (List.mem_cons_of_mem _ mem)
      obtain ⟨first, isFirst, -, -, ends, -⟩ := members.exists_place inLayer
      obtain ⟨second, isSecond, starts, -⟩ := later.exists_place inBack
      rw [List.map_cons, stackLayers, layerExtent_stack, layerExtent_thickness]
      refine ⟨first, second, List.mem_append_left _ isFirst, List.mem_append_right _ isSecond, ?_⟩
      dsimp only at ends starts
      linarith
  | cons other front ih =>
      obtain ⟨first, second, isFirst, isSecond, beyond⟩ :=
        ih (main + ((LayerExtent.of spacing (withSizes size other)).thickness + spacing.layer))
          fun layer mem => short layer (List.mem_cons_of_mem _ mem)
      rw [List.cons_append, List.map_cons, stackLayers]
      exact ⟨first, second, List.mem_append_right _ isFirst, List.mem_append_right _ isSecond, beyond⟩

variable {sizes : List (FlowSize ℚ)}

/-- Packing keeps the places there are, and adds those of every component that follows. -/
theorem foldl_packNext_places (components : List (Ranks × ℕ)) (packed : List (ℕ × FlowPoint ℚ) × FlowSize ℚ) :
    packed.1 ⊆ (components.foldl (packNext spacing sizes) packed).1 ∧
      ∀ component ∈ components, ∃ offset,
        (packComponent spacing sizes component.1 offset).1 ⊆ (components.foldl (packNext spacing sizes) packed).1 := by
  induction components generalizing packed with
  | nil => exact ⟨fun _ => id, fun _ mem => absurd mem List.not_mem_nil⟩
  | cons component rest ih =>
      rw [List.foldl_cons]
      obtain ⟨kept, added⟩ := ih (packNext spacing sizes packed component)
      have grown : ∃ offset, (packNext spacing sizes packed component).1 =
          packed.1 ++ (packComponent spacing sizes component.1 offset).1 := ⟨_, rfl⟩
      obtain ⟨offset, grown⟩ := grown
      rw [grown, List.append_subset] at kept
      refine ⟨kept.1, fun other mem => ?_⟩
      rcases List.mem_cons.mp mem with rfl | later
      · exact ⟨offset, kept.2⟩
      · exact added other later

/-- Where no child is packed twice, a child is found at the place it was given. -/
theorem Packs.lookup_eq {children : List ℕ} {packed : List (ℕ × FlowPoint ℚ) × FlowSize ℚ}
    (packs : Packs sizes children packed) (once : children.Nodup) {i : ℕ} {place : FlowPoint ℚ}
    (mem : (i, place) ∈ packed.1) : (packed.1.lookup i).getD ⟨0.0, 0.0⟩ = place := by
  have isChild : i ∈ children := packs.fills.children ▸ List.mem_map_of_mem mem
  have keys : (packed.1.map (·.1)).Nodup := packs.fills.children.symm ▸ once
  have same := List.inj_on_of_nodup_map keys (packs.lookup_mem isChild) mem rfl
  exact congrArg Prod.snd same

/-- The order of the layers of a component is the order of the places of its children along the flow. -/
theorem packComponents_before (spaced : spacing.NonNegative) (sized : ∀ s ∈ sizes, s.NonNegative)
    {components : List Ranks} (below : ∀ i ∈ components.flatten.flatten, i < sizes.length)
    (once : components.flatten.flatten.Nodup) {layers : Ranks} (isComponent : layers ∈ components)
    (before : layers.Before s t) {packed : List (ℕ × FlowPoint ℚ) × FlowSize ℚ}
    (packing : packed = packComponents spacing sizes components) :
    (flowBounds ((packed.1.lookup s).getD ⟨0.0, 0.0⟩) (sizeAt sizes s)).maxX + spacing.layer ≤
      (flowBounds ((packed.1.lookup t).getD ⟨0.0, 0.0⟩) (sizeAt sizes t)).minX := by
  have packs := packComponents_packs spaced sized below
  obtain ⟨number, isAt⟩ := List.mem_iff_getElem?.mp isComponent
  obtain ⟨offset, placed⟩ := (foldl_packNext_places components.zipIdx ([], ⟨0.0, 0.0⟩)).2 (layers, number)
    (List.mem_zipIdx_iff_getElem?.mpr isAt)
  have belowHere : ∀ i ∈ layers.flatten, i < sizes.length := by
    intro i mem
    obtain ⟨layer, isLayer, inLayer⟩ := List.mem_flatten.mp mem
    exact below i (List.mem_flatten_of_mem (List.mem_flatten_of_mem isComponent isLayer) inLayer)
  rw [← packComponents, ← packing, packComponent_eq belowHere] at placed
  rw [← packing] at packs
  obtain ⟨first, second, isFirst, isSecond, beyond⟩ :=
    stackLayers_before spaced (sizeAt_nonneg sized) offset 0 (stackOf_le_maximum (sizeAt sizes)) before
  rw [packs.lookup_eq once (placed isFirst), packs.lookup_eq once (placed isSecond)]
  exact beyond

end Packing

/-! ### Along a direction -/

namespace Direction

/-- The second rectangle lies beyond the first one in this direction, with at least `gap` between them. -/
def Leads (d : Direction) (gap : ℚ) (a b : Bounds ℚ) : Prop :=
  match d with
  | right => a.maxX + gap ≤ b.minX
  | left => b.maxX + gap ≤ a.minX
  | down => a.maxY + gap ≤ b.minY
  | up => b.maxY + gap ≤ a.minY

/-- What comes later along a flow lies beyond what comes before it, seen in the plane. -/
theorem leads_region (d : Direction) (extent : ℚ) {gap : ℚ} {a b : Bounds ℚ} (beyond : a.maxX + gap ≤ b.minX) :
    d.Leads gap (d.region extent a) (d.region extent b) := by
  have mirrored : extent - b.minX + gap ≤ extent - a.maxX := by linarith
  cases d with
  | right => exact beyond
  | left => exact mirrored
  | down => exact beyond
  | up => exact mirrored

theorem Leads.shift {d : Direction} {gap : ℚ} {a b : Bounds ℚ} (leads : d.Leads gap a b) (dx dy : ℚ) :
    d.Leads gap (a.shift dx dy) (b.shift dx dy) := by
  cases d with
  | right => exact (add_right_comm _ _ _).trans_le (add_le_add_left leads dx)
  | left => exact (add_right_comm _ _ _).trans_le (add_le_add_left leads dx)
  | down => exact (add_right_comm _ _ _).trans_le (add_le_add_left leads dy)
  | up => exact (add_right_comm _ _ _).trans_le (add_le_add_left leads dy)

end Direction

/-! ### The children of one container -/

section Arranging

variable {κ : Type} {p : Placement ℚ κ} {path ids : List String} {s t : ℕ}

theorem childOf?_lt {endpoint : String} {i : ℕ} (found : p.childOf? path ids endpoint = some i) : i < ids.length := by
  rw [Placement.childOf?] at found
  obtain ⟨whole, -, rest⟩ := Option.bind_eq_some_iff.mp found
  split at rest
  · obtain ⟨id, -, isLast⟩ := Option.bind_eq_some_iff.mp rest
    have isNumbered := List.mem_zipIdx_iff_getElem?.mp (mem_of_lastValue?_eq_some isLast)
    exact (List.getElem?_eq_some_iff.mp isNumbered).1
  · cases rest

/-- The ends of a projected edge are children. -/
theorem projectEdges_lt (isEdge : (s, t) ∈ p.projectEdges path ids) : s < ids.length ∧ t < ids.length := by
  rw [Placement.projectEdges, List.mem_eraseDups, List.mem_filterMap] at isEdge
  obtain ⟨e, -, projected⟩ := isEdge
  obtain ⟨source, -, projected⟩ := Option.bind_eq_some_iff.mp projected
  obtain ⟨i, fromChild, projected⟩ := Option.bind_eq_some_iff.mp projected
  obtain ⟨target, -, projected⟩ := Option.bind_eq_some_iff.mp projected
  obtain ⟨j, toChild, projected⟩ := Option.bind_eq_some_iff.mp projected
  split at projected
  · cases projected
  · cases projected
    exact ⟨childOf?_lt fromChild, childOf?_lt toChild⟩

end Arranging

namespace Placement

/-- The children of the container at `path` are at these places, and where the layering tells the sense of the edges
between them, every such edge leads from one child to another one beyond it, with the space of layers between them. -/
structure Flows (p : Placement ℚ ℚ) (path ids : List String) (places : List (Tree (PositionedNode ℚ))) : Prop where
  sameIds : places.map (·.value.id) = ids
  leads : (∀ components, p.layering (p.projectEdges path ids) = .ok components →
      Separated (p.projectEdges path ids) components) →
    ∀ e ∈ p.projectEdges path ids, ∃ a b, places[e.1]? = some a ∧ places[e.2]? = some b ∧
      p.direction.Leads p.spacing.layer a.value.bounds b.value.bounds

variable {p : Placement ℚ ℚ} {path : List String}

/-- Moving all children together keeps their order. -/
theorem Flows.indent {ids : List String} {places : List (Tree (PositionedNode ℚ))} (flows : p.Flows path ids places)
    (padding : Insets ℚ) : p.Flows path ids (places.map (Placement.indent padding)) where
  sameIds := by
    rw [List.map_map, ← flows.sameIds]
    exact List.map_congr_left fun u _ => by rw [Function.comp_apply, indent_eq_moveTo, moveTo_id]
  leads := by
    intro separated e isEdge
    obtain ⟨a, b, aPlace, bPlace, leads⟩ := flows.leads separated e isEdge
    refine ⟨Placement.indent padding a, Placement.indent padding b, ?_, ?_, ?_⟩
    · rw [List.getElem?_map, aPlace, Option.map_some]
    · rw [List.getElem?_map, bPlace, Option.map_some]
    · rw [indent_bounds, indent_bounds]
      exact leads.shift _ _

/-- Children that are arranged lie along the flow. -/
theorem arrange_flows (spaced : p.spacing.NonNegative) (once : p.layering.OncePerComponent)
    {children placed : List (Tree (PositionedNode ℚ))} {content : Size ℚ}
    (sized : ∀ u ∈ children, u.value.size.NonNegative) (arranged : p.arrange path children = .ok (placed, content)) :
    p.Flows path (children.map (·.value.id)) placed where
  sameIds := ids_of_moved (arrange_moved arranged)
  leads := by
    rintro separated ⟨s, t⟩ isEdge
    obtain ⟨sChild, tChild⟩ := projectEdges_lt isEdge
    rw [List.length_map] at sChild tChild
    have notEmpty : children ≠ [] := List.ne_nil_of_length_pos (Nat.zero_lt_of_lt sChild)
    obtain ⟨components, packed, ranked, packing, rfl, -⟩ := arrange_eq_ok notEmpty arranged
    obtain ⟨layers, isComponent, before⟩ := rankChildren_before ranked separated isEdge sChild tChild
    have whole := rankChildren_perm once ranked
    have beyond := packComponents_before spaced (flowSizes_nonneg sized) (ranked_below once ranked)
      (whole.nodup_iff.mpr List.nodup_range) isComponent before packing
    refine ⟨p.slot packed s children[s], p.slot packed t children[t], ?_, ?_, ?_⟩
    · rw [List.getElem?_mapIdx, List.getElem?_eq_getElem sChild, Option.map_some]
    · rw [List.getElem?_mapIdx, List.getElem?_eq_getElem tChild, Option.map_some]
    · rw [slot_bounds_at packed sChild, slot_bounds_at packed tChild]
      exact p.direction.leads_region _ beyond

end Placement

/-! ### All containers -/

section Contents

variable {α : Type}

mutual

/-- The ids of the nodes on the way down to a node and to everything inside it, outer nodes first, each with the nodes
directly inside. -/
def contentsOfTree (parent : List String) : Tree (LayoutNode α) → List (List String × List (Tree (LayoutNode α)))
  | .node n cs => (parent ++ [n.id], cs) :: contentsOfForest (parent ++ [n.id]) cs

/-- The same for the nodes of a list, in order. -/
def contentsOfForest (parent : List String) :
    List (Tree (LayoutNode α)) → List (List String × List (Tree (LayoutNode α)))
  | [] => []
  | t :: ts => contentsOfTree parent t ++ contentsOfForest parent ts

end

theorem contentsOfForest_eq_flatMap (parent : List String) (ts : List (Tree (LayoutNode α))) :
    contentsOfForest parent ts = ts.flatMap (contentsOfTree parent) := by
  induction ts with
  | nil => rw [contentsOfForest, List.flatMap_nil]
  | cons t ts ih => rw [contentsOfForest, List.flatMap_cons, ih]

end Contents

/-! ### Going through the nodes -/

section Requests

variable {p : Placement ℚ ℚ}

/-- The contents of a node, with the ids on the way down to it, lie along the flow in its placed form. -/
def FlowsIn (p : Placement ℚ ℚ) (contents : List String × List (Tree (LayoutNode ℚ)))
    (u : Tree (PositionedNode ℚ)) : Prop :=
  p.Flows contents.1 (contents.2.map (·.value.id)) u.children

theorem FlowsIn.moved (contents : List String × List (Tree (LayoutNode ℚ))) (u v : Tree (PositionedNode ℚ))
    (flows : FlowsIn p contents u) (moved : Placement.Moved u v) : FlowsIn p contents v := by
  obtain ⟨corner, rfl⟩ := moved
  rw [FlowsIn, Placement.moveTo_children]
  exact flows

/-- Without children there are no edges between them. -/
theorem flows_nil (path : List String) : p.Flows path [] [] where
  sameIds := rfl
  leads := fun _ _ isEdge => absurd (projectEdges_lt isEdge).1 (Nat.not_lt_zero _)

variable [NumberText ℚ]

/-- A placed node is nested, and the contents of it and of everything inside it lie along the flow, if nothing that is
asked for is negative. -/
def FlowsInside (p : Placement ℚ ℚ) (parent : List String) (t : Tree (LayoutNode ℚ)) (u : Tree (PositionedNode ℚ)) :
    Prop :=
  NestedInside t u ∧ ((∀ s ∈ Tree.preorder t, s.value.NonNegative) →
    List.Forall₂ (FlowsIn p) (contentsOfTree parent t) (Tree.preorder u))

theorem flowsIn_forest {parent : List String} {ts : List (Tree (LayoutNode ℚ))} {us : List (Tree (PositionedNode ℚ))}
    (nonneg : ∀ s ∈ Tree.preorderForest ts, s.value.NonNegative) (all : List.Forall₂ (FlowsInside p parent) ts us) :
    List.Forall₂ (fun t u => List.Forall₂ (FlowsIn p) (contentsOfTree parent t) (Tree.preorder u)) ts us :=
  Tree.forall₂_of_preorderForest nonneg (all.imp fun _ _ here => here.2)

theorem flowsInside_carried (spaced : p.spacing.NonNegative) (once : p.layering.OncePerComponent) :
    p.CarriedBelow (FlowsInside p) where
  leaf := by
    intro parent n
    refine ⟨(nestedInside_carried spaced once).leaf n, fun _ => ?_⟩
    rw [contentsOfTree, contentsOfForest, Tree.preorder_eq_cons]
    exact .cons (flows_nil _) .nil
  compound := by
    intro parent n inside inner arranged content notEmpty all arrangedInside
    have nested := all.imp fun _ _ here => here.1
    refine ⟨(nestedInside_carried spaced once).compound _ n inside inner arranged content notEmpty nested
      arrangedInside, fun nonneg => ?_⟩
    rw [Tree.preorder_eq_cons, Tree.children_node] at nonneg
    obtain ⟨-, nonnegInside⟩ := List.forall_mem_cons.mp nonneg
    obtain ⟨sizes, sameIds, -⟩ := nested_forest nonnegInside nested
    have flows := (Placement.arrange_flows spaced once sizes arrangedInside).indent n.insets
    rw [sameIds] at flows
    have moved := Placement.moved_indented (Placement.arrange_moved arrangedInside) n.insets
    rw [contentsOfTree, contentsOfForest_eq_flatMap, Tree.preorder_eq_cons]
    exact .cons flows (Placement.forall₂_flatMap_moved FlowsIn.moved (flowsIn_forest nonnegInside all) moved)

/-! ### Main result -/

/-- In a layout of a request without negative numbers the children of the root and of every node lie along the flow:
where the layering tells the sense of the edges between them, every such edge leads from one child to another one beyond
it, with the space of layers between them. -/
theorem layeredLayout_flows {layering : Layering ℚ} (once : layering.OncePerComponent) {g : LayoutGraph ℚ}
    (nonneg : g.NonNegative) {placed : PositionedGraph ℚ} (laidOut : layeredLayout layering g = .ok placed) :
    (g.placement layering).Flows [] (g.children.map (·.value.id)) placed.children ∧
      List.Forall₂ (fun contents u => (g.placement layering).Flows contents.1 (contents.2.map (·.value.id)) u.children)
        (contentsOfForest [] g.children) (Tree.preorderForest placed.children) := by
  obtain ⟨inner, nodes, placedInside, -, arranged, -⟩ := layeredLayout_eq_ok laidOut
  have carried : (g.placement layering).CarriedBelow (FlowsInside (g.placement layering)) :=
    flowsInside_carried nonneg.spacing once
  have all := carried.placeForest [] g.children placedInside
  have nonnegNodes : ∀ s ∈ Tree.preorderForest g.children, s.value.NonNegative := by
    rw [← Tree.flatMap_visit_singleton]
    exact nonneg.nodes
  obtain ⟨sizes, sameIds, -⟩ := nested_forest nonnegNodes (all.imp fun _ _ here => here.1)
  have flows := Placement.arrange_flows nonneg.spacing once sizes arranged
  rw [sameIds] at flows
  rw [contentsOfForest_eq_flatMap]
  exact ⟨flows, Placement.forall₂_flatMap_moved FlowsIn.moved (flowsIn_forest nonnegNodes all)
    (Placement.arrange_moved arranged)⟩

end Requests

/-- A layering in which every edge leads downwards: the child 0 is above the child 1. -/
def fallingPlaces : Layering ℚ := fun _ => .ok [[⟨0, 0, 5⟩, ⟨1, 0, 2⟩]]

/-- The edge between the outermost nodes and the one inside the container tell their sense, so the outermost nodes lie
along the flow, which runs to the left, and so do the leaves in the container. -/
theorem leafBesideContainer_flows :
    fallingPlaces.OncePerComponent ∧ leafBesideContainer.NonNegative ∧
      ∃ placed, layeredLayout fallingPlaces leafBesideContainer = .ok placed ∧
        (∃ a b, placed.children[0]? = some a ∧ placed.children[1]? = some b ∧
          Direction.left.Leads 160 a.value.bounds b.value.bounds) ∧
        List.Forall₂ (fun contents u => (leafBesideContainer.placement fallingPlaces).Flows contents.1
            (contents.2.map (·.value.id)) u.children)
          (contentsOfForest [] leafBesideContainer.children) (Tree.preorderForest placed.children) := by
  have once : fallingPlaces.OncePerComponent := by
    intro edges components answered
    cases answered
    decide
  have spaced : (Spacing.ofOptions leafBesideContainer.options : Spacing ℚ).NonNegative :=
    ⟨by decide +kernel, by decide +kernel, by decide +kernel⟩
  have nonneg : leafBesideContainer.NonNegative := ⟨by decide +kernel, spaced⟩
  have succeeds : (layeredLayout fallingPlaces leafBesideContainer).isOk = true := by decide +kernel
  obtain ⟨placed, laidOut⟩ := exists_eq_ok_of_isOk succeeds
  obtain ⟨outermost, inside⟩ := layeredLayout_flows once nonneg laidOut
  have edges : (leafBesideContainer.placement fallingPlaces).projectEdges []
      (leafBesideContainer.children.map (·.value.id)) = [(0, 1)] := by decide +kernel
  have direction : (leafBesideContainer.placement fallingPlaces).direction = .left := by decide +kernel
  have layer : (leafBesideContainer.placement fallingPlaces).spacing.layer = 160 := by decide +kernel
  have leads := outermost.leads
  rw [edges, direction, layer] at leads
  have separated : ∀ components, (leafBesideContainer.placement fallingPlaces).layering [(0, 1)] = .ok components →
      Separated [(0, 1)] components := by
    intro components answered
    cases answered
    refine ⟨by decide, by decide, fun component mem => .inr ?_⟩
    rw [List.mem_singleton.mp mem]
    decide +kernel
  exact ⟨once, nonneg, placed, laidOut, leads separated (0, 1) (List.mem_singleton_self _), inside⟩

end BoxDiagram
