/-
Module: BoxDiagram.Proofs.Packing
Purpose: The packing of children into layers and components, with exact arithmetic.  Every child gets a place of its
  own inside the extent of the whole, for any layers.
Main exports: Fills, stackMembers_fills, stackLayers_fills, packComponent_fills, packNext_packs,
  packComponents_packs
-/
import BoxDiagram.Proofs.ExactArithmetic
import BoxDiagram.Proofs.Rectangles
import Mathlib.Data.List.Pairwise

namespace BoxDiagram

/-- The rectangle of a child of this size at a place, with x along the flow and y across it. -/
def flowBounds (place : FlowPoint ℚ) (size : FlowSize ℚ) : Bounds ℚ :=
  ⟨place.main, place.cross, place.main + size.main, place.cross + size.cross⟩

/-- These places hold exactly these children, in this order, apart from one another and inside the region. -/
structure Fills (size : ℕ → FlowSize ℚ) (children : List ℕ) (region : Bounds ℚ) (places : List (ℕ × FlowPoint ℚ)) :
    Prop where
  children : places.map (·.1) = children
  inside : ∀ s ∈ places, (flowBounds s.2 (size s.1)).Within region
  apart : places.Pairwise fun s t => (flowBounds s.2 (size s.1)).Apart (flowBounds t.2 (size t.1))

namespace Fills

variable {size : ℕ → FlowSize ℚ} {children here there : List ℕ} {region region' outer : Bounds ℚ}
  {places places' : List (ℕ × FlowPoint ℚ)}

theorem nil (size : ℕ → FlowSize ℚ) (region : Bounds ℚ) : Fills size [] region [] where
  children := rfl
  inside := fun _ mem => absurd mem List.not_mem_nil
  apart := .nil

theorem singleton {i : ℕ} {place : FlowPoint ℚ} (inside : (flowBounds place (size i)).Within region) :
    Fills size [i] region [(i, place)] where
  children := rfl
  inside := fun _ mem => List.mem_singleton.mp mem ▸ inside
  apart := List.pairwise_singleton _ _

theorem mono (fills : Fills size children region places) (within : region.Within outer) :
    Fills size children outer places where
  children := fills.children
  inside := fun s mem => (fills.inside s mem).trans within
  apart := fills.apart

/-- Every child has a place, which is inside the region. -/
theorem exists_place (fills : Fills size children region places) {i : ℕ} (mem : i ∈ children) :
    ∃ place, (i, place) ∈ places ∧ (flowBounds place (size i)).Within region := by
  rw [← fills.children] at mem
  obtain ⟨⟨_, place⟩, isPlace, rfl⟩ := List.mem_map.mp mem
  exact ⟨place, isPlace, fills.inside _ isPlace⟩

/-- Regions that are apart can be filled one after the other. -/
theorem append (first : Fills size here region places) (second : Fills size there region' places')
    (apart : region.Apart region') (within : region.Within outer) (within' : region'.Within outer) :
    Fills size (here ++ there) outer (places ++ places') where
  children := by rw [List.map_append, first.children, second.children]
  inside := by
    intro s mem
    rcases List.mem_append.mp mem with mem | mem
    · exact (first.inside s mem).trans within
    · exact (second.inside s mem).trans within'
  apart := by
    refine List.pairwise_append.mpr ⟨first.apart, second.apart, fun s mem t mem' => ?_⟩
    exact apart.mono (first.inside s mem) (second.inside t mem')

end Fills

/-! ### Layers -/

/-- The sizes and spacings of a packing are not negative. -/
structure Spacing.NonNegative (spacing : Spacing ℚ) : Prop where
  node : 0 ≤ spacing.node
  layer : 0 ≤ spacing.layer
  component : 0 ≤ spacing.component

/-- An extent that is not negative in either direction. -/
structure FlowSize.NonNegative (size : FlowSize ℚ) : Prop where
  main : 0 ≤ size.main
  cross : 0 ≤ size.cross

variable {spacing : Spacing ℚ} {size : ℕ → FlowSize ℚ}

/-- Members with their sizes. -/
def withSizes (size : ℕ → FlowSize ℚ) (layer : List ℕ) : List (ℕ × FlowSize ℚ) := layer.map fun i => (i, size i)

/-- How long the members of a layer are across the flow, with the space between them. -/
def stackOf (spacing : Spacing ℚ) (size : ℕ → FlowSize ℚ) (layer : List ℕ) : ℚ :=
  rowLength spacing.node (layer.map fun i => (size i).cross)

/-- How thick the thickest member of a layer is. -/
def thicknessOf (size : ℕ → FlowSize ℚ) (layer : List ℕ) : ℚ := Scalar.maximum (layer.map fun i => (size i).main)

theorem stackOf_cons {i : ℕ} {layer : List ℕ} (more : layer ≠ []) :
    stackOf spacing size (i :: layer) = (size i).cross + (spacing.node + stackOf spacing size layer) := by
  have moreSizes : (layer.map fun i => (size i).cross) ≠ [] := fun empty => more (List.map_eq_nil_iff.mp empty)
  rw [stackOf, List.map_cons, rowLength_cons moreSizes, stackOf]

theorem stackOf_singleton (i : ℕ) : stackOf spacing size [i] = (size i).cross := rowLength_singleton _ _

theorem stackOf_nonneg (spaced : spacing.NonNegative) (sized : ∀ i, (size i).NonNegative) (layer : List ℕ) :
    0 ≤ stackOf spacing size layer := by
  refine rowLength_nonneg spaced.node fun x mem => ?_
  obtain ⟨i, _, rfl⟩ := List.mem_map.mp mem
  exact (sized i).cross

theorem thicknessOf_nonneg (size : ℕ → FlowSize ℚ) (layer : List ℕ) : 0 ≤ thicknessOf size layer :=
  Scalar.maximum_nonneg _

theorem main_le_thicknessOf {i : ℕ} {layer : List ℕ} (mem : i ∈ layer) : (size i).main ≤ thicknessOf size layer :=
  Scalar.le_maximum (List.mem_map_of_mem mem)

theorem layerExtent_stack (spacing : Spacing ℚ) (size : ℕ → FlowSize ℚ) (layer : List ℕ) :
    (LayerExtent.of spacing (withSizes size layer)).stack = stackOf spacing size layer := by
  have sizes : (withSizes size layer).map (fun m => m.2.cross) = layer.map fun i => (size i).cross := List.map_map
  have count : (withSizes size layer).length = layer.length := List.length_map _
  rw [stackOf, rowLength, List.length_map, ← sizes, ← count]
  rfl

theorem layerExtent_thickness (spacing : Spacing ℚ) (size : ℕ → FlowSize ℚ) (layer : List ℕ) :
    (LayerExtent.of spacing (withSizes size layer)).thickness = thicknessOf size layer := by
  have sizes : (withSizes size layer).map (fun m => m.2.main) = layer.map fun i => (size i).main := List.map_map
  rw [thicknessOf, ← sizes]
  rfl

/-- The members of a layer fill a region as thick as the layer and as long as the row of them.  The induction takes
the first member off; the rest starts after it and the space between members. -/
theorem stackMembers_fills (spaced : spacing.NonNegative) (sized : ∀ i, (size i).NonNegative) {thickness : ℚ}
    (main cross : ℚ) (layer : List ℕ) (thin : ∀ i ∈ layer, (size i).main ≤ thickness) :
    Fills size layer ⟨main, cross, main + thickness, cross + stackOf spacing size layer⟩
      (stackMembers spacing main thickness cross (withSizes size layer)) := by
  induction layer generalizing cross with
  | nil => exact Fills.nil size _
  | cons i rest ih =>
      obtain ⟨thinHere, thinRest⟩ := List.forall_mem_cons.mp thin
      obtain ⟨before, after⟩ := Scalar.half_bounds (sub_nonneg.mpr thinHere)
      have first : Fills size [i] ⟨main, cross, main + thickness, cross + (size i).cross⟩
          [(i, ⟨main + (thickness - (size i).main) / 2.0, cross⟩)] := by
        refine Fills.singleton ⟨?_, le_refl _, ?_, le_refl _⟩
        all_goals
          dsimp only [flowBounds]
          linarith
      cases rest with
      | nil =>
          rw [stackOf_singleton]
          exact first
      | cons j rest =>
          have later := ih (cross + ((size i).cross + spacing.node)) thinRest
          have long := stackOf_nonneg spaced sized (j :: rest)
          have crossHere := (sized i).cross
          have gapHere := spaced.node
          rw [stackOf_cons (List.cons_ne_nil j rest)]
          refine Fills.append first later (.inr (.inr (.inl ?_))) ⟨?_, ?_, ?_, ?_⟩ ⟨?_, ?_, ?_, ?_⟩
          all_goals
            dsimp only
            linarith

/-- Layers fill a region as long as the row of their thicknesses.  The induction takes the first layer off, which lies
in the middle of the extent across the flow. -/
theorem stackLayers_fills (spaced : spacing.NonNegative) (sized : ∀ i, (size i).NonNegative)
    (offset : ℚ) {extent : ℚ} (main : ℚ) (layers : List (List ℕ))
    (short : ∀ layer ∈ layers, stackOf spacing size layer ≤ extent) :
    Fills size layers.flatten
      ⟨main, offset, main + rowLength spacing.layer (layers.map (thicknessOf size)), offset + extent⟩
      (stackLayers spacing offset extent main
        (layers.map fun layer => LayerExtent.of spacing (withSizes size layer))) := by
  induction layers generalizing main with
  | nil => exact Fills.nil size _
  | cons layer rest ih =>
      obtain ⟨shortHere, shortRest⟩ := List.forall_mem_cons.mp short
      obtain ⟨before, after⟩ := Scalar.half_bounds (sub_nonneg.mpr shortHere)
      have members : Fills size layer ⟨main, offset, main + thicknessOf size layer, offset + extent⟩
          (stackMembers spacing main (thicknessOf size layer)
            (offset + (extent - stackOf spacing size layer) / 2.0) (withSizes size layer)) := by
        refine (stackMembers_fills spaced sized main _ layer fun i => main_le_thicknessOf).mono
          ⟨le_refl _, ?_, le_refl _, ?_⟩
        all_goals
          dsimp only
          linarith
      rw [List.map_cons, List.map_cons, stackLayers, layerExtent_stack, layerExtent_thickness, List.flatten_cons]
      cases rest with
      | nil =>
          rw [List.map_nil, rowLength_singleton, List.flatten_nil, List.append_nil]
          exact (List.append_nil _).symm ▸ members
      | cons next rest =>
          have later := ih (main + (thicknessOf size layer + spacing.layer)) shortRest
          have long : 0 ≤ rowLength spacing.layer ((next :: rest).map (thicknessOf size)) := by
            refine rowLength_nonneg spaced.layer fun x mem => ?_
            obtain ⟨other, _, rfl⟩ := List.mem_map.mp mem
            exact thicknessOf_nonneg size other
          have thickHere := thicknessOf_nonneg size layer
          have gapHere := spaced.layer
          rw [rowLength_cons (by simp)]
          refine Fills.append members later (.inl ?_) ⟨?_, ?_, ?_, ?_⟩ ⟨?_, ?_, ?_, ?_⟩
          all_goals
            dsimp only
            linarith

/-! ### Components -/

/-- The size of the child with this number; nothing for a number without a child. -/
def sizeAt (sizes : List (FlowSize ℚ)) (i : ℕ) : FlowSize ℚ := sizes[i]?.getD ⟨0.0, 0.0⟩

variable {sizes : List (FlowSize ℚ)}

theorem sizeAt_eq {i : ℕ} (inside : i < sizes.length) : sizeAt sizes i = sizes[i] := by
  rw [sizeAt, List.getElem?_eq_getElem inside, Option.getD_some]

theorem sizeAt_nonneg (sized : ∀ s ∈ sizes, s.NonNegative) (i : ℕ) : (sizeAt sizes i).NonNegative := by
  rw [sizeAt]
  cases found : sizes[i]? with
  | none => exact ⟨by norm_num, by norm_num⟩
  | some s => exact sized s (List.mem_of_getElem? found)

/-- Numbers of children all have a size. -/
theorem filterMap_sizes {layer : List ℕ} (below : ∀ i ∈ layer, i < sizes.length) :
    (layer.filterMap fun i => sizes[i]?.map fun s => (i, s)) = withSizes (sizeAt sizes) layer := by
  rw [withSizes, ← List.filterMap_eq_map]
  refine List.filterMap_congr fun i mem => ?_
  rw [Function.comp_apply, sizeAt_eq (below i mem), List.getElem?_eq_getElem (below i mem), Option.map_some]

/-- The layers of a component are put one behind the other, each across the flow in the middle of the longest one. -/
theorem packComponent_eq {ranks : Ranks} (below : ∀ i ∈ ranks.flatten, i < sizes.length) (offset : ℚ) :
    packComponent spacing sizes ranks offset =
      (stackLayers spacing offset (Scalar.maximum (ranks.map (stackOf spacing (sizeAt sizes)))) 0
          (ranks.map fun layer => LayerExtent.of spacing (withSizes (sizeAt sizes) layer)),
        ⟨rowLength spacing.layer (ranks.map (thicknessOf (sizeAt sizes))),
          Scalar.maximum (ranks.map (stackOf spacing (sizeAt sizes)))⟩) := by
  have layers : (ranks.map fun layer => LayerExtent.of spacing
        (layer.filterMap fun i => sizes[i]?.map fun s => (i, s))) =
      ranks.map fun layer => LayerExtent.of spacing (withSizes (sizeAt sizes) layer) := by
    refine List.map_congr_left fun layer mem => ?_
    rw [filterMap_sizes fun i member => below i (List.mem_flatten_of_mem mem member)]
  have thicknesses :
      (ranks.map fun layer => LayerExtent.of spacing (withSizes (sizeAt sizes) layer)).map (·.thickness) =
        ranks.map (thicknessOf (sizeAt sizes)) := by
    rw [List.map_map]
    exact List.map_congr_left fun layer _ => layerExtent_thickness spacing (sizeAt sizes) layer
  have lengths : (ranks.map fun layer => LayerExtent.of spacing (withSizes (sizeAt sizes) layer)).map (·.stack) =
      ranks.map (stackOf spacing (sizeAt sizes)) := by
    rw [List.map_map]
    exact List.map_congr_left fun layer _ => layerExtent_stack spacing (sizeAt sizes) layer
  have count : (ranks.map fun layer => LayerExtent.of spacing (withSizes (sizeAt sizes) layer)).length =
      (ranks.map (thicknessOf (sizeAt sizes))).length := by
    rw [List.length_map, List.length_map]
  rw [packComponent, layers, thicknesses, lengths, count, ← rowLength, Scalar.zero_eq]

/-- No layer of a component is longer than the component. -/
theorem stackOf_le_maximum {ranks : Ranks} (size : ℕ → FlowSize ℚ) :
    ∀ layer ∈ ranks, stackOf spacing size layer ≤ Scalar.maximum (ranks.map (stackOf spacing size)) :=
  fun _ mem => Scalar.le_maximum (List.mem_map_of_mem mem)

/-- A component fills a region that starts at its offset and has its extent. -/
theorem packComponent_fills (spaced : spacing.NonNegative) (sized : ∀ s ∈ sizes, s.NonNegative) {ranks : Ranks}
    (below : ∀ i ∈ ranks.flatten, i < sizes.length) (offset : ℚ) :
    (packComponent spacing sizes ranks offset).2.NonNegative ∧
      Fills (sizeAt sizes) ranks.flatten
        ⟨0, offset, (packComponent spacing sizes ranks offset).2.main,
          offset + (packComponent spacing sizes ranks offset).2.cross⟩
        (packComponent spacing sizes ranks offset).1 := by
  rw [packComponent_eq below]
  have filled := stackLayers_fills spaced (sizeAt_nonneg sized) offset 0 ranks (stackOf_le_maximum (sizeAt sizes))
  rw [zero_add] at filled
  refine ⟨⟨rowLength_nonneg spaced.layer ?_, Scalar.maximum_nonneg _⟩, filled⟩
  intro x mem
  obtain ⟨layer, _, rfl⟩ := List.mem_map.mp mem
  exact thicknessOf_nonneg _ layer

/-! ### All components -/

/-- Packed children fill the extent of the whole. -/
structure Packs (sizes : List (FlowSize ℚ)) (children : List ℕ) (packed : List (ℕ × FlowPoint ℚ) × FlowSize ℚ) :
    Prop where
  extent : packed.2.NonNegative
  fills : Fills (sizeAt sizes) children ⟨0, 0, packed.2.main, packed.2.cross⟩ packed.1

/-- One more component goes beyond those that are packed, and the extent grows to hold both. -/
theorem packNext_packs (spaced : spacing.NonNegative) (sized : ∀ s ∈ sizes, s.NonNegative) {children : List ℕ}
    {packed : List (ℕ × FlowPoint ℚ) × FlowSize ℚ} (packs : Packs sizes children packed) {ranks : Ranks}
    (below : ∀ i ∈ ranks.flatten, i < sizes.length) (number : ℕ) :
    Packs sizes (children ++ ranks.flatten) (packNext spacing sizes packed (ranks, number)) := by
  obtain ⟨places, extent⟩ := packed
  obtain ⟨⟨mainNonneg, crossNonneg⟩, fills⟩ := packs
  rw [packNext]
  dsimp only at fills mainNonneg crossNonneg ⊢
  have beyond : extent.cross ≤ if number = 0 then extent.cross else extent.cross + spacing.component := by
    split
    · exact le_refl _
    · exact le_add_of_nonneg_right spaced.component
  generalize (if number = 0 then extent.cross else extent.cross + spacing.component) = offset at beyond ⊢
  obtain ⟨⟨mainHere, crossHere⟩, fillsHere⟩ := packComponent_fills spaced sized below offset
  generalize packComponent spacing sizes ranks offset = component at mainHere crossHere fillsHere ⊢
  have wider := le_max_left extent.main component.2.main
  have wide := le_max_right extent.main component.2.main
  rw [Scalar.larger_eq_max]
  refine ⟨⟨mainNonneg.trans wider, add_nonneg (crossNonneg.trans beyond) crossHere⟩, ?_⟩
  refine fills.append fillsHere (.inr (.inr (.inl beyond))) ⟨le_refl _, le_refl _, wider, ?_⟩
    ⟨le_refl _, crossNonneg.trans beyond, wide, le_refl _⟩
  exact beyond.trans (le_add_of_nonneg_right crossHere)

/-- Component after component is packed; the induction keeps what is packed so far. -/
theorem foldl_packNext_packs (spaced : spacing.NonNegative) (sized : ∀ s ∈ sizes, s.NonNegative)
    {components : List Ranks} (below : ∀ i ∈ components.flatten.flatten, i < sizes.length) {children : List ℕ}
    {packed : List (ℕ × FlowPoint ℚ) × FlowSize ℚ} (packs : Packs sizes children packed) (number : ℕ) :
    Packs sizes (children ++ components.flatten.flatten)
      ((components.zipIdx number).foldl (packNext spacing sizes) packed) := by
  induction components generalizing children packed number with
  | nil =>
      rw [List.flatten_nil, List.flatten_nil, List.append_nil]
      exact packs
  | cons ranks rest ih =>
      rw [List.flatten_cons, List.flatten_append] at below ⊢
      rw [List.zipIdx_cons, List.foldl_cons, ← List.append_assoc]
      have belowHere : ∀ i ∈ ranks.flatten, i < sizes.length := fun i mem => below i (List.mem_append_left _ mem)
      exact ih (fun i mem => below i (List.mem_append_right _ mem)) (packNext_packs spaced sized packs belowHere number)
        (number + 1)

theorem packComponents_packs (spaced : spacing.NonNegative) (sized : ∀ s ∈ sizes, s.NonNegative)
    {components : List Ranks} (below : ∀ i ∈ components.flatten.flatten, i < sizes.length) :
    Packs sizes components.flatten.flatten (packComponents spacing sizes components) := by
  have start : Packs sizes [] ([], ⟨0.0, 0.0⟩) := ⟨⟨by norm_num, by norm_num⟩, Fills.nil _ _⟩
  exact foldl_packNext_packs spaced sized below start 0

/-! ### Looking places up -/

namespace Packs

variable {children : List ℕ} {packed : List (ℕ × FlowPoint ℚ) × FlowSize ℚ}

/-- Every packed child is found at one of the places. -/
theorem lookup_mem (packs : Packs sizes children packed) {i : ℕ} (mem : i ∈ children) :
    (i, (packed.1.lookup i).getD ⟨0.0, 0.0⟩) ∈ packed.1 := by
  rw [← packs.fills.children] at mem
  obtain ⟨s, sMem, sameKey⟩ := List.mem_map.mp mem
  have isFound : (packed.1.lookup i).isSome := List.lookup_isSome_iff.mpr ⟨s, sMem, beq_iff_eq.mpr sameKey.symm⟩
  obtain ⟨place, found⟩ := Option.isSome_iff_exists.mp isFound
  rw [found, Option.getD_some]
  obtain ⟨before, after, split, _⟩ := List.lookup_eq_some_iff.mp found
  rw [split]
  exact List.mem_append_right _ List.mem_cons_self

/-- The place of a packed child is inside the extent of the whole. -/
theorem lookup_within (packs : Packs sizes children packed) {i : ℕ} (mem : i ∈ children) :
    (flowBounds ((packed.1.lookup i).getD ⟨0.0, 0.0⟩) (sizeAt sizes i)).Within
      ⟨0, 0, packed.2.main, packed.2.cross⟩ := by
  have inside := packs.fills.inside (i, (packed.1.lookup i).getD ⟨0.0, 0.0⟩) (packs.lookup_mem mem)
  exact inside

/-- The places of two packed children are apart. -/
theorem lookup_apart (packs : Packs sizes children packed) {i j : ℕ} (memI : i ∈ children) (memJ : j ∈ children)
    (different : i ≠ j) :
    (flowBounds ((packed.1.lookup i).getD ⟨0.0, 0.0⟩) (sizeAt sizes i)).Apart
      (flowBounds ((packed.1.lookup j).getD ⟨0.0, 0.0⟩) (sizeAt sizes j)) := by
  have symmetric : Std.Symm fun s t : ℕ × FlowPoint ℚ =>
      (flowBounds s.2 (sizeAt sizes s.1)).Apart (flowBounds t.2 (sizeAt sizes t.1)) := ⟨fun _ _ => Bounds.Apart.symm⟩
  have apart := packs.fills.apart.forall (packs.lookup_mem memI) (packs.lookup_mem memJ)
    fun same => different (congrArg Prod.fst same)
  exact apart

end Packs

end BoxDiagram
