/-
Module: BoxDiagram.Proofs.TightPacking
Purpose: No space is wasted around packed children.  Where no layer is empty, some child starts where the packing
  starts, along the flow and across it, and some child ends where it ends; so the uppermost child of a container lies
  directly below the padding of the container.
Main exports: Scalar.maximum_mem, ReachesSides, packComponents_tight, Layering.FillsLayers, fillsLayers_of_exact,
  Placement.arrange_top, Topped, nested_allNodes, topped_allNodes
-/
import BoxDiagram.Proofs.FlowOrder
import BoxDiagram.Proofs.RankedChildren
import BoxDiagram.Proofs.RequestNodes

namespace BoxDiagram

/-! ### Greatest elements -/

namespace Scalar

theorem foldl_larger_mem (xs : List ℚ) (start : ℚ) : xs.foldl larger start = start ∨ xs.foldl larger start ∈ xs := by
  induction xs generalizing start with
  | nil => exact .inl rfl
  | cons x xs ih =>
      rw [List.foldl_cons]
      rcases ih (larger start x) with same | later
      · rw [same, larger_eq_max]
        rcases max_choice start x with isStart | isElement
        · exact .inl isStart
        · exact .inr (by simp [isElement])
      · exact .inr (List.mem_cons_of_mem _ later)

/-- The greatest of some numbers that are not negative is one of them. -/
theorem maximum_mem {xs : List ℚ} (notEmpty : xs ≠ []) (nonneg : ∀ x ∈ xs, 0 ≤ x) : maximum xs ∈ xs := by
  rcases foldl_larger_mem xs 0.0 with isZero | isElement
  · obtain ⟨x, rest, rfl⟩ := List.exists_cons_of_ne_nil notEmpty
    have bound : x ≤ maximum (x :: rest) := le_maximum List.mem_cons_self
    have least : maximum (x :: rest) ≤ x :=
      calc maximum (x :: rest) = 0.0 := isZero
        _ = 0 := zero_eq
        _ ≤ x := nonneg x List.mem_cons_self
    rw [le_antisymm least bound]
    exact List.mem_cons_self
  · exact isElement

end Scalar

/-! ### Sides that are reached -/

/-- Among these places there is one that starts where the region starts along the flow, one that ends where it ends, and
one that starts where it starts across the flow. -/
structure ReachesSides (size : ℕ → FlowSize ℚ) (region : Bounds ℚ) (places : List (ℕ × FlowPoint ℚ)) : Prop where
  near : ∃ s ∈ places, s.2.main = region.minX
  far : ∃ s ∈ places, s.2.main + (size s.1).main = region.maxX
  top : ∃ s ∈ places, s.2.cross = region.minY

variable {spacing : Spacing ℚ} {size : ℕ → FlowSize ℚ}

/-- A member of a layer is in the middle of the layer. -/
theorem exists_mem_stackMembers {layer : List ℕ} {i : ℕ} (mem : i ∈ layer) (main thickness cross : ℚ) :
    ∃ start, (i, ⟨main + (thickness - (size i).main) / 2.0, start⟩) ∈
      stackMembers spacing main thickness cross (withSizes size layer) := by
  induction layer generalizing cross with
  | nil => exact absurd mem List.not_mem_nil
  | cons j rest ih =>
      rcases List.mem_cons.mp mem with rfl | later
      · exact ⟨cross, List.mem_cons_self⟩
      · obtain ⟨start, isPlace⟩ := ih later (cross + ((size j).cross + spacing.node))
        exact ⟨start, List.mem_cons_of_mem _ isPlace⟩

theorem exists_thickest (sized : ∀ i, (size i).NonNegative) {layer : List ℕ} (notEmpty : layer ≠ []) :
    ∃ i ∈ layer, (size i).main = thicknessOf size layer := by
  have lengths : (layer.map fun i => (size i).main) ≠ [] := by simpa using notEmpty
  have nonneg : ∀ x ∈ layer.map fun i => (size i).main, 0 ≤ x := by
    simpa using fun i _ => (sized i).main
  exact List.mem_map.mp (Scalar.maximum_mem lengths nonneg)

theorem exists_longest (spaced : spacing.NonNegative) (sized : ∀ i, (size i).NonNegative) {layers : Ranks}
    (notEmpty : layers ≠ []) :
    ∃ layer ∈ layers, stackOf spacing size layer = Scalar.maximum (layers.map (stackOf spacing size)) := by
  have lengths : layers.map (stackOf spacing size) ≠ [] := by simpa using notEmpty
  have nonneg : ∀ x ∈ layers.map (stackOf spacing size), 0 ≤ x := by
    simpa using fun layer _ => stackOf_nonneg spaced sized layer
  exact List.mem_map.mp (Scalar.maximum_mem lengths nonneg)

/-- The thickest member of a layer takes up all of its thickness, and the first one starts it. -/
theorem stackMembers_reaches (sized : ∀ i, (size i).NonNegative) {layer : List ℕ} (notEmpty : layer ≠ [])
    (main cross stop : ℚ) :
    ReachesSides size ⟨main, cross, main + thicknessOf size layer, stop⟩
      (stackMembers spacing main (thicknessOf size layer) cross (withSizes size layer)) := by
  obtain ⟨i, isMember, thickest⟩ := exists_thickest sized notEmpty
  have placed : ∃ start, (i, ⟨main + (thicknessOf size layer - (size i).main) / 2.0, start⟩) ∈
      stackMembers spacing main (thicknessOf size layer) cross (withSizes size layer) :=
    exists_mem_stackMembers isMember main (thicknessOf size layer) cross
  have inTheMiddle : main + (thicknessOf size layer - (size i).main) / 2.0 = main := by
    rw [thickest]
    norm_num
  rw [inTheMiddle] at placed
  obtain ⟨start, isPlace⟩ := placed
  obtain ⟨first, rest, rfl⟩ := List.exists_cons_of_ne_nil notEmpty
  exact ⟨⟨_, isPlace, rfl⟩, ⟨_, isPlace, congrArg (main + ·) thickest⟩, ⟨_, List.mem_cons_self, rfl⟩⟩

/-- How far behind the start of the first of these layers the next one starts. -/
def lead (spacing : Spacing ℚ) (size : ℕ → FlowSize ℚ) (layers : Ranks) : ℚ :=
  (layers.map fun layer => thicknessOf size layer + spacing.layer).sum

theorem lead_cons (layer : List ℕ) (rest : Ranks) :
    lead spacing size (layer :: rest) = thicknessOf size layer + spacing.layer + lead spacing size rest := by
  rw [lead, List.map_cons, List.sum_cons, lead]

theorem rowLength_append_singleton (front : Ranks) (layer : List ℕ) :
    rowLength spacing.layer ((front ++ [layer]).map (thicknessOf size)) =
      lead spacing size front + thicknessOf size layer := by
  induction front with
  | nil => simp [rowLength_singleton, lead]
  | cons first rest ih =>
      have more : (rest ++ [layer]).map (thicknessOf size) ≠ [] := by simp
      rw [List.cons_append, List.map_cons, rowLength_cons more, ih, lead_cons]
      ring

/-- The members of a layer are placed behind the layers in front of it, in the middle across the flow. -/
theorem subset_stackLayers (offset extent main : ℚ) (front : Ranks) (layer : List ℕ) (back : Ranks) :
    stackMembers spacing (main + lead spacing size front) (thicknessOf size layer)
        (offset + (extent - stackOf spacing size layer) / 2.0) (withSizes size layer) ⊆
      stackLayers spacing offset extent main
        ((front ++ layer :: back).map fun layer => LayerExtent.of spacing (withSizes size layer)) := by
  induction front generalizing main with
  | nil =>
      have start : main + lead spacing size [] = main := by simp [lead]
      rw [List.nil_append, List.map_cons, stackLayers, layerExtent_stack, layerExtent_thickness, start]
      exact List.subset_append_left _ _
  | cons first rest ih =>
      have start : main + lead spacing size (first :: rest) =
          main + (thicknessOf size first + spacing.layer) + lead spacing size rest := by
        rw [lead_cons]
        ring
      rw [List.cons_append, List.map_cons, stackLayers, layerExtent_thickness, start]
      exact List.Subset.trans (ih _) (List.subset_append_right _ _)

/-- Layers start with the first one, end with the last one, and across the flow they start with the longest one. -/
theorem stackLayers_reaches (sized : ∀ i, (size i).NonNegative) (offset extent main stop : ℚ) {layers : Ranks}
    (notEmpty : layers ≠ []) (filled : ∀ layer ∈ layers, layer ≠ [])
    (longest : ∃ layer ∈ layers, stackOf spacing size layer = extent) :
    ReachesSides size ⟨main, offset, main + rowLength spacing.layer (layers.map (thicknessOf size)), stop⟩
      (stackLayers spacing offset extent main
        (layers.map fun layer => LayerExtent.of spacing (withSizes size layer))) := by
  have here : ∀ layer ∈ layers, ∀ start cross,
      ReachesSides size ⟨start, cross, start + thicknessOf size layer, stop⟩
        (stackMembers spacing start (thicknessOf size layer) cross (withSizes size layer)) :=
    fun layer mem start cross => stackMembers_reaches sized (filled layer mem) start cross stop
  -- The first layer has the near side, the last one the far side, and the longest one the top.
  constructor
  case near =>
    obtain ⟨layer, rest, rfl⟩ := List.exists_cons_of_ne_nil notEmpty
    obtain ⟨s, isPlace, start⟩ := (here layer List.mem_cons_self _ _).near
    refine ⟨s, subset_stackLayers offset extent main [] layer rest isPlace, ?_⟩
    simpa [lead] using start
  case far =>
    obtain ⟨front, layer, rfl⟩ := (List.eq_nil_or_concat' layers).resolve_left notEmpty
    obtain ⟨s, isPlace, ends⟩ := (here layer (by simp) _ _).far
    refine ⟨s, subset_stackLayers offset extent main front layer [] isPlace, ?_⟩
    dsimp only at ends ⊢
    rw [ends, rowLength_append_singleton, add_assoc]
  case top =>
    obtain ⟨layer, isLayer, long⟩ := longest
    obtain ⟨front, back, rfl⟩ := List.append_of_mem isLayer
    obtain ⟨s, isPlace, start⟩ := (here layer isLayer _ _).top
    refine ⟨s, subset_stackLayers offset extent main front layer back isPlace, ?_⟩
    rw [start, long]
    norm_num

/-! ### Components -/

variable {sizes : List (FlowSize ℚ)}

/-- Wherever a component is put across the flow, its children reach the sides of its extent. -/
def ComponentTight (spacing : Spacing ℚ) (sizes : List (FlowSize ℚ)) (ranks : Ranks) : Prop :=
  ∀ offset stop, ReachesSides (sizeAt sizes) ⟨0, offset, (packComponent spacing sizes ranks offset).2.main, stop⟩
    (packComponent spacing sizes ranks offset).1

/-- Packed children reach the sides of the extent of the whole. -/
def PackedTight (sizes : List (FlowSize ℚ)) (packed : List (ℕ × FlowPoint ℚ) × FlowSize ℚ) : Prop :=
  ReachesSides (sizeAt sizes) ⟨0, 0, packed.2.main, packed.2.cross⟩ packed.1

theorem packComponent_tight (spaced : spacing.NonNegative) (sized : ∀ s ∈ sizes, s.NonNegative) {ranks : Ranks}
    (below : ∀ i ∈ ranks.flatten, i < sizes.length) (notEmpty : ranks ≠ []) (filled : ∀ layer ∈ ranks, layer ≠ []) :
    ComponentTight spacing sizes ranks := by
  intro offset stop
  have allSized := sizeAt_nonneg sized
  have reaches := stackLayers_reaches allSized offset _ 0 stop notEmpty filled (exists_longest spaced allSized notEmpty)
  rw [zero_add] at reaches
  rw [packComponent_eq below]
  exact reaches

/-- The first component starts at the origin. -/
theorem packNext_first {ranks : Ranks} (nonneg : 0 ≤ (packComponent spacing sizes ranks 0).2.main)
    (here : ComponentTight spacing sizes ranks) :
    PackedTight sizes (packNext spacing sizes ([], ⟨0.0, 0.0⟩) (ranks, 0)) := by
  rw [PackedTight, packNext]
  dsimp only
  rw [if_pos rfl, Scalar.larger_eq_max, Scalar.zero_eq, List.nil_append, max_eq_right nonneg]
  exact here 0 _

/-- One more component keeps what is reached; the far side is reached by the one that is longer along the flow. -/
theorem packNext_tight {packed : List (ℕ × FlowPoint ℚ) × FlowSize ℚ} (tight : PackedTight sizes packed) {ranks : Ranks}
    (here : ComponentTight spacing sizes ranks) (number : ℕ) :
    PackedTight sizes (packNext spacing sizes packed (ranks, number)) := by
  obtain ⟨places, extent⟩ := packed
  obtain ⟨⟨s, sMem, near⟩, ⟨u, uMem, far⟩, ⟨t, tMem, top⟩⟩ := tight
  rw [PackedTight, packNext]
  dsimp only at far ⊢
  generalize (if number = 0 then extent.cross else extent.cross + spacing.component) = offset
  obtain ⟨-, ⟨v, vMem, farHere⟩, -⟩ := here offset 0
  dsimp only at farHere
  rw [Scalar.larger_eq_max]
  refine ⟨⟨s, List.mem_append_left _ sMem, near⟩, ?_, ⟨t, List.mem_append_left _ tMem, top⟩⟩
  rcases max_choice extent.main (packComponent spacing sizes ranks offset).2.main with longer | longer
  · exact ⟨u, List.mem_append_left _ uMem, far.trans longer.symm⟩
  · exact ⟨v, List.mem_append_right _ vMem, farHere.trans longer.symm⟩

/-- Component after component is packed; the induction keeps what is reached so far. -/
theorem foldl_packNext_tight {components : List Ranks} (here : ∀ ranks ∈ components, ComponentTight spacing sizes ranks)
    {packed : List (ℕ × FlowPoint ℚ) × FlowSize ℚ} (tight : PackedTight sizes packed) (number : ℕ) :
    PackedTight sizes ((components.zipIdx number).foldl (packNext spacing sizes) packed) := by
  induction components generalizing packed number with
  | nil => exact tight
  | cons ranks rest ih =>
      obtain ⟨tightHere, tightRest⟩ := List.forall_mem_cons.mp here
      rw [List.zipIdx_cons, List.foldl_cons]
      exact ih tightRest (packNext_tight tight tightHere number) (number + 1)

/-- Children that are packed in layers of which none is empty reach the sides of the extent. -/
theorem packComponents_tight (spaced : spacing.NonNegative) (sized : ∀ s ∈ sizes, s.NonNegative)
    {components : List Ranks} (below : ∀ i ∈ components.flatten.flatten, i < sizes.length) (some : components ≠ [])
    (inhabited : ∀ ranks ∈ components, ranks.flatten ≠ [])
    (filled : ∀ ranks ∈ components, ∀ layer ∈ ranks, layer ≠ []) :
    PackedTight sizes (packComponents spacing sizes components) := by
  have belowHere : ∀ ranks ∈ components, ∀ i ∈ ranks.flatten, i < sizes.length := by
    intro ranks mem i isMember
    obtain ⟨layer, isLayer, inLayer⟩ := List.mem_flatten.mp isMember
    exact below i (List.mem_flatten_of_mem (List.mem_flatten_of_mem mem isLayer) inLayer)
  have here : ∀ ranks ∈ components, ComponentTight spacing sizes ranks := by
    intro ranks mem
    have notEmpty : ranks ≠ [] := by
      rintro rfl
      exact inhabited [] mem rfl
    exact packComponent_tight spaced sized (belowHere ranks mem) notEmpty (filled ranks mem)
  obtain ⟨first, rest, rfl⟩ := List.exists_cons_of_ne_nil some
  obtain ⟨tightFirst, tightRest⟩ := List.forall_mem_cons.mp here
  have nonneg := (packComponent_fills spaced sized (belowHere first List.mem_cons_self) 0).1.main
  rw [packComponents, List.zipIdx_cons, List.foldl_cons]
  exact foldl_packNext_tight tightRest (packNext_first nonneg tightFirst) 1

/-! ### Layers that are not empty -/

section Layers

variable {κ : Type} [Coordinate κ]

/-- In no ranking after an answer of the layering a layer is left empty. -/
def Layering.FillsLayers (layering : Layering κ) : Prop :=
  ∀ count edges ranks, rankChildren layering count edges = .ok ranks →
    ∀ component ∈ ranks, ∀ layer ∈ component, layer ≠ []

theorem dropClose_go_subset (last : κ) (ys : List κ) : dropClose.go last ys ⊆ ys := by
  induction ys generalizing last with
  | nil => exact List.Subset.refl _
  | cons y rest ih =>
      rw [dropClose.go]
      split
      · exact List.Subset.trans (ih last) (List.subset_cons_self _ _)
      · exact List.cons_subset_cons y (ih y)

/-- Every level is the coordinate of some member. -/
theorem exists_mem_of_mem_levelsOf {members : List (PlacedVertex κ)} {level : κ} (mem : level ∈ levelsOf members) :
    ∃ m ∈ members, m.y = level := by
  have kept : dropClose ((members.map (·.y)).mergeSort Coordinate.before) ⊆
      (members.map (·.y)).mergeSort Coordinate.before := by
    cases (members.map (·.y)).mergeSort Coordinate.before with
    | nil => exact List.Subset.refl _
    | cons y rest => exact List.cons_subset_cons y (dropClose_go_subset y rest)
  exact List.mem_map.mp (List.mem_mergeSort.mp (kept mem))

end Layers

/-- A member with the coordinate of a level is in the layer of the level. -/
theorem ranksOfCoordinates_filled (members : List (PlacedVertex ℚ)) (edges : List (ℕ × ℕ)) :
    ∀ layer ∈ ranksOfCoordinates members edges, layer ≠ [] := by
  intro layer isLayer
  obtain ⟨k, inRange, rfl⟩ := List.mem_map.mp isLayer
  dsimp only
  have inside := levelAt_lt (List.mem_range.mp inRange) (runsBackward (levelsOf members) members edges)
  rw [levelAt] at inside
  -- Layers may be counted backwards; the level is one of them in either case.
  generalize (if runsBackward (levelsOf members) members edges then (levelsOf members).length - 1 - k else k) = level
    at inside ⊢
  obtain ⟨m, isMember, atLevel⟩ := exists_mem_of_mem_levelsOf (List.getElem_mem inside)
  have inLayer : levelOf (levelsOf members) m.y = level :=
    levelOf_eq (levelsOf_spec members).1 inside ⟨atLevel.ge, atLevel ▸ lt_add_of_pos_right _ tolerance_pos⟩
  have kept : m ∈ members.filter fun m => levelOf (levelsOf members) m.y == level :=
    List.mem_filter.mpr ⟨isMember, beq_iff_eq.mpr inLayer⟩
  exact List.ne_nil_of_mem (List.mem_map_of_mem (List.mem_mergeSort.mpr kept))

section Layers

variable {κ : Type} [Coordinate κ] {layering : Layering κ} {count : ℕ} {edges : List (ℕ × ℕ)} {ranks : List Ranks}

/-- A component is one that the layering has answered with, or a child that it has left out. -/
theorem exists_members_of_mem_ranks (ranked : rankChildren layering count edges = .ok ranks) :
    ∀ component ∈ ranks, (∃ members : List (PlacedVertex κ), members ≠ [] ∧
      ranksOfCoordinates members edges = component) ∨ ∃ i, [[i]] = component := by
  obtain ⟨answered, -, rfl⟩ := rankChildren_eq_ok ranked
  intro component mem
  rcases List.mem_append.mp (List.mem_mergeSort.mp mem) with isAnswer | leftOut
  · exact .inl (exists_members_of_mem_componentRanks count edges answered [] component isAnswer)
  · obtain ⟨i, -, alone⟩ := List.mem_map.mp leftOut
    exact .inr ⟨i, alone⟩

theorem ranks_inhabited (ranked : rankChildren layering count edges = .ok ranks) :
    ∀ component ∈ ranks, component.flatten ≠ [] := by
  intro component mem
  rcases exists_members_of_mem_ranks ranked component mem with ⟨members, notEmpty, rfl⟩ | ⟨i, rfl⟩
  · exact ranksOfCoordinates_inhabited notEmpty edges
  · simp

end Layers

/-- A layering with exact coordinates leaves no layer empty. -/
theorem fillsLayers_of_exact (layering : Layering ℚ) : layering.FillsLayers := by
  intro count edges ranks ranked component mem
  rcases exists_members_of_mem_ranks ranked component mem with ⟨members, -, rfl⟩ | ⟨i, rfl⟩
  · exact ranksOfCoordinates_filled members edges
  · simp

/-! ### The uppermost child -/

/-- In every direction some place has nothing above it, seen in the plane. -/
theorem Direction.exists_top (d : Direction) {extent stop : ℚ} {places : List (ℕ × FlowPoint ℚ)}
    (tight : ReachesSides size ⟨0, 0, extent, stop⟩ places) :
    ∃ s ∈ places, (d.region extent (flowBounds s.2 (size s.1))).minY = 0 := by
  obtain ⟨⟨s, sMem, near⟩, ⟨u, uMem, far⟩, ⟨t, tMem, top⟩⟩ := tight
  -- Along the flow down or up, what is on top is what the flow starts or ends with.
  cases d with
  | right => exact ⟨t, tMem, top⟩
  | left => exact ⟨t, tMem, top⟩
  | down => exact ⟨s, sMem, near⟩
  | up => exact ⟨u, uMem, sub_eq_zero.mpr far.symm⟩

section Placed

variable {κ : Type} [Coordinate κ] {p : Placement ℚ κ}

/-- Arranged children begin at the top: one of them has nothing above it. -/
theorem Placement.arrange_top (spaced : p.spacing.NonNegative) (once : p.layering.OncePerComponent)
    (fills : p.layering.FillsLayers) {path : List String} {children placed : List (Tree (PositionedNode ℚ))}
    {content : Size ℚ} (notEmpty : children ≠ []) (sized : ∀ u ∈ children, u.value.size.NonNegative)
    (arranged : p.arrange path children = .ok (placed, content)) : ∃ c ∈ placed, c.value.y = 0 := by
  obtain ⟨components, packed, ranked, packing, rfl, -⟩ := arrange_eq_ok notEmpty arranged
  have whole := rankChildren_perm once ranked
  have below := ranked_below once ranked
  have flowSized : ∀ s ∈ p.flowSizes children, s.NonNegative := flowSizes_nonneg sized
  have some : components ≠ [] := by
    rintro rfl
    have none := whole.length_eq
    rw [List.length_range] at none
    exact notEmpty (List.length_eq_zero_iff.mp none.symm)
  have packs := packComponents_packs spaced flowSized below
  have tight := packComponents_tight spaced flowSized below some (ranks_inhabited ranked) (fills _ _ _ ranked)
  rw [← packing] at packs tight
  obtain ⟨s, isPlace, onTop⟩ := p.direction.exists_top tight
  have isChild : s.1 ∈ components.flatten.flatten := packs.fills.children ▸ List.mem_map_of_mem isPlace
  have inside : s.1 < children.length := List.mem_range.mp (whole.mem_iff.mp isChild)
  have found := packs.lookup_eq (whole.nodup_iff.mpr List.nodup_range) isPlace
  refine ⟨p.slot packed s.1 children[s.1], List.mem_mapIdx.mpr ⟨s.1, inside, rfl⟩, ?_⟩
  have bounds := slot_bounds_at (p := p) packed inside
  rw [found] at bounds
  exact (congrArg Bounds.minY bounds).trans onTop

variable [NumberText ℚ]

/-- The uppermost of the nodes inside a container lies directly below the padding. -/
def Topped (t : Tree (LayoutNode ℚ)) (u : Tree (PositionedNode ℚ)) : Prop :=
  t.children ≠ [] → ∃ c ∈ u.children, c.value.y = t.value.insets.top

theorem Topped.moved (t : Tree (LayoutNode ℚ)) (u v : Tree (PositionedNode ℚ)) (topped : Topped t u)
    (moved : Placement.Moved u v) : Topped t v := by
  obtain ⟨corner, rfl⟩ := moved
  rw [Topped, Placement.moveTo_children]
  exact topped

/-- A placed node is nested, and it and all containers inside it have a node directly below their padding, if nothing
that is asked for is negative. -/
def ToppedInside (t : Tree (LayoutNode ℚ)) (u : Tree (PositionedNode ℚ)) : Prop :=
  NestedInside t u ∧ ((∀ s ∈ Tree.preorder t, s.value.NonNegative) →
    List.Forall₂ Topped (Tree.preorder t) (Tree.preorder u))

theorem topped_forest {ts : List (Tree (LayoutNode ℚ))} {us : List (Tree (PositionedNode ℚ))}
    (nonneg : ∀ s ∈ Tree.preorderForest ts, s.value.NonNegative) (all : List.Forall₂ ToppedInside ts us) :
    List.Forall₂ (fun t u => List.Forall₂ Topped (Tree.preorder t) (Tree.preorder u)) ts us :=
  Tree.forall₂_of_preorderForest nonneg (all.imp fun _ _ here => here.2)

theorem toppedInside_carried (spaced : p.spacing.NonNegative) (once : p.layering.OncePerComponent)
    (fills : p.layering.FillsLayers) : p.Carried ToppedInside where
  leaf := by
    intro n
    refine ⟨(nestedInside_carried spaced once).leaf n, fun _ => ?_⟩
    rw [Tree.preorder_eq_cons, Tree.preorder_eq_cons]
    exact .cons (fun notLeaf => absurd rfl notLeaf) .nil
  compound := by
    intro path n inside inner arranged content notEmpty all arrangedInside
    have nested := all.imp fun _ _ here => here.1
    refine ⟨(nestedInside_carried spaced once).compound path n inside inner arranged content notEmpty nested
      arrangedInside, fun nonneg => ?_⟩
    rw [Tree.preorder_eq_cons, Tree.children_node] at nonneg
    obtain ⟨-, nonnegInside⟩ := List.forall_mem_cons.mp nonneg
    obtain ⟨sizes, -, -⟩ := nested_forest nonnegInside nested
    have innerNotEmpty : inner ≠ [] := by
      rintro rfl
      cases all
      exact notEmpty rfl
    obtain ⟨c, isChild, onTop⟩ := Placement.arrange_top spaced once fills innerNotEmpty sizes arrangedInside
    have moved := Placement.moved_indented (Placement.arrange_moved arrangedInside) n.insets
    rw [Tree.preorder_eq_cons, Tree.preorder_eq_cons]
    refine .cons (fun _ => ⟨Placement.indent n.insets c, List.mem_map_of_mem isChild, ?_⟩)
      (Placement.forall₂_moved Topped.moved (topped_forest nonnegInside all) moved)
    have lowered : (Placement.indent n.insets c).value.y = c.value.y + n.insets.top :=
      congrArg Bounds.minY (Placement.indent_bounds n.insets c)
    rw [lowered, onTop, zero_add, Tree.value_node]

variable {layering : Layering κ} {g : LayoutGraph ℚ} {placed : PositionedGraph ℚ}

/-- Every node of a layout of a request without negative numbers is nested in what was asked for. -/
theorem nested_allNodes (once : layering.OncePerComponent) (nonneg : g.NonNegative)
    (laidOut : layeredLayout layering g = .ok placed) :
    List.Forall₂ Nested g.allNodes (Tree.preorderForest placed.children) := by
  have nonnegNodes := nonneg.nodes
  rw [LayoutGraph.allNodes_eq] at nonnegNodes ⊢
  have carried : (g.placement layering).Carried NestedInside := nestedInside_carried nonneg.spacing once
  obtain ⟨inner, all, moved⟩ := carried.layout laidOut
  obtain ⟨-, -, nested⟩ := nested_forest nonnegNodes all
  exact Placement.forall₂_moved Nested.moved nested moved

/-- Where the layering leaves no layer empty, a layout of a request without negative numbers wastes no space: in every
container the uppermost of the nodes inside lies directly below the padding. -/
theorem topped_allNodes (once : layering.OncePerComponent) (fills : layering.FillsLayers) (nonneg : g.NonNegative)
    (laidOut : layeredLayout layering g = .ok placed) :
    List.Forall₂ Topped g.allNodes (Tree.preorderForest placed.children) := by
  have nonnegNodes := nonneg.nodes
  rw [LayoutGraph.allNodes_eq] at nonnegNodes ⊢
  have carried : (g.placement layering).Carried ToppedInside := toppedInside_carried nonneg.spacing once fills
  obtain ⟨inner, all, moved⟩ := carried.layout laidOut
  exact Placement.forall₂_moved Topped.moved (topped_forest nonnegNodes all) moved

end Placed

end BoxDiagram
