/-
Module: BoxDiagram.Proofs.RequestOptions
Purpose: What a layout request tells its engine through options arrives as it was meant: the direction, the spacings,
  the sizes of leaves and the padding of containers, as long as numbers are read back from their texts.
Main exports: writtenNumbers, ReadsBack, layeredLayout_leafExtent, layoutRequest_readsBack
-/
import BoxDiagram.Layout.Engine
import BoxDiagram.Proofs.Listing
import BoxDiagram.Proofs.OptionText
import BoxDiagram.Proofs.OrderedMaps
import BoxDiagram.Proofs.PlacementSteps
import BoxDiagram.Proofs.RequestNodes

namespace BoxDiagram

/-! ### The options of the root -/

variable {α κ : Type}

/-- The direction in which the layers follow one another for a flow.  An unknown flow runs to the right. -/
def FlowDirection.direction : FlowDirection → Direction
  | .leftToRight | .unknown _ => .right
  | .rightToLeft => .left
  | .topToBottom => .down
  | .bottomToTop => .up

theorem ofOption_directionName (flow : FlowDirection) :
    Direction.ofOption (some (directionName flow)) = flow.direction := by
  cases flow with
  | leftToRight => decide
  | rightToLeft => decide
  | topToBottom => decide
  | bottomToTop => decide
  | unknown word =>
      have right : Direction.ofOption (some "RIGHT") = .right := by decide
      exact right

/-- The keys of the options of the root, in the order in which they are set. -/
def rootKeys : List String :=
  [OptionKey.algorithm, OptionKey.direction, OptionKey.hierarchyHandling, OptionKey.edgeRouting,
    OptionKey.favorStraightEdges, OptionKey.nodeSpacing, OptionKey.layerSpacing, OptionKey.componentSpacing,
    OptionKey.edgeNodeSpacing, OptionKey.edgeEdgeSpacing, OptionKey.edgeNodeBetweenLayers,
    OptionKey.edgeEdgeBetweenLayers, OptionKey.edgeLabelSpacing, OptionKey.edgeLabelSide, OptionKey.edgeLabelCenter,
    OptionKey.crossingMinimization, OptionKey.greedySwitch, OptionKey.greedySwitchHierarchical,
    OptionKey.thoroughness, OptionKey.nodePlacement, OptionKey.blockAlignment, OptionKey.postCompaction,
    OptionKey.connectedComponents]

/-- No option of the root is set twice. -/
theorem rootKeys_nodup : rootKeys.Nodup := by decide +kernel

section Root

variable [NumberText α] (flow : FlowDirection) (config : LayoutConfig α)

open NumberText

theorem rootOptions_direction : (rootOptions flow config).get? OptionKey.direction = some (directionName flow) := by
  rw [rootOptions, OrderedMap.get?_ofList]
  exact lastValue?_eq_some_of_nodup rootKeys_nodup (by simp)

theorem rootOptions_spacings :
    (rootOptions flow config).get? OptionKey.nodeSpacing = some (print config.nodeSpacing) ∧
      (rootOptions flow config).get? OptionKey.layerSpacing = some (print config.layerSpacing) ∧
      (rootOptions flow config).get? OptionKey.componentSpacing = some (print config.componentSpacing) := by
  rw [rootOptions, OrderedMap.get?_ofList, OrderedMap.get?_ofList, OrderedMap.get?_ofList]
  refine ⟨lastValue?_eq_some_of_nodup rootKeys_nodup ?_, lastValue?_eq_some_of_nodup rootKeys_nodup ?_,
    lastValue?_eq_some_of_nodup rootKeys_nodup ?_⟩
  all_goals simp

theorem number?_of_get? {o : LayoutOptions} {key : String} {x : α} (lossless : Lossless x)
    (isSet : o.get? key = some (print x)) : o.number? key = some x := by
  rw [LayoutOptions.number?, isSet, Option.bind_some, Text.trim, Text.trimList_eq lossless.noBlanks,
    String.ofList_toList, lossless.readBack]

/-- An engine reads the spacings of the configuration. -/
theorem spacing_rootOptions [Scalar α] (node : Lossless config.nodeSpacing) (layer : Lossless config.layerSpacing)
    (component : Lossless config.componentSpacing) :
    Spacing.ofOptions (rootOptions flow config) =
      ⟨config.nodeSpacing, config.layerSpacing, config.componentSpacing⟩ := by
  obtain ⟨nodeSet, layerSet, componentSet⟩ := rootOptions_spacings flow config
  rw [Spacing.ofOptions, number?_of_get? node nodeSet, number?_of_get? layer layerSet,
    number?_of_get? component componentSet]
  rfl

end Root

/-! ### The options of a node -/

section Node

variable [Scalar α] [NumberText α]

open NumberText

/-- The options for ports leave the size of a node and its padding alone. -/
theorem portOptions_keys (b : Box) :
    ∀ e ∈ portOptions (α := α) b, e.1 ≠ OptionKey.padding ∧ e.1 ≠ OptionKey.minimumSize := by
  have keys : ∀ key ∈ [OptionKey.portConstraints, OptionKey.portAlignment, OptionKey.portSpacing, OptionKey.portLabels,
      OptionKey.portLabelsNextToPort, OptionKey.portsSurrounding],
      key ≠ OptionKey.padding ∧ key ≠ OptionKey.minimumSize := by
    decide +kernel
  rw [portOptions]
  split
  · exact fun e mem => absurd mem List.not_mem_nil
  · intro e mem
    exact keys e.1 (List.mem_map_of_mem mem)

/-- What an engine reads of the node of a box: a leaf has exactly the size of the leaf, as its width and height and as
its least size; a container has none of these, and the padding of containers. -/
structure ReadsBack (t : Tree Box) (n : LayoutNode α) : Prop where
  leaf : t.isCompound = false → n.width = some (leafSize t).width ∧ n.height = some (leafSize t).height ∧
    n.minimumSize? = some (leafSize t)
  compound : t.isCompound = true → n.width = none ∧ n.height = none ∧ n.minimumSize? = none ∧
    n.padding? = some compoundPadding

theorem nodeRequest_options (flow : FlowDirection) (t : Tree Box) (key : String) :
    (nodeRequest flow t : LayoutNode α).options.get? key =
      (lastValue? key (sizeOptions (α := α) t)).or (lastValue? key (portOptions (α := α) t.value)) := by
  rw [nodeRequest, OrderedMap.get?_ofList, lastValue?_append]

/-- The options of a leaf ask for its size as the least one. -/
theorem minimumSize_leaf (flow : FlowDirection) {t : Tree Box} (isLeaf : t.isCompound = false) :
    (nodeRequest flow t : LayoutNode α).options.get? OptionKey.minimumSize = some (sizeText (leafSize t : Size α)) := by
  have keys : [OptionKey.sizeConstraints, OptionKey.minimumSize].Nodup := by decide +kernel
  have isSet : lastValue? OptionKey.minimumSize (sizeOptions (α := α) t) = some (sizeText (leafSize t : Size α)) := by
    rw [sizeOptions, isLeaf, if_neg Bool.false_ne_true]
    exact lastValue?_eq_some_of_nodup keys (List.mem_cons_of_mem _ List.mem_cons_self)
  rw [nodeRequest_options, isSet, Option.some_or]

/-- The options of a container ask for its padding, and for no least size. -/
theorem options_compound (flow : FlowDirection) {t : Tree Box} (isCompound : t.isCompound = true) :
    (nodeRequest flow t : LayoutNode α).options.get? OptionKey.padding =
        some (insetsText (compoundPadding : Insets α)) ∧
      (nodeRequest flow t : LayoutNode α).options.get? OptionKey.minimumSize = none := by
  have otherKey : OptionKey.padding ≠ OptionKey.minimumSize := by decide +kernel
  have options : sizeOptions (α := α) t = [(OptionKey.padding, insetsText (compoundPadding : Insets α))] := by
    rw [sizeOptions, isCompound, if_pos rfl]
  constructor
  · have isSet : lastValue? OptionKey.padding (sizeOptions (α := α) t) =
        some (insetsText (compoundPadding : Insets α)) := by
      rw [options]
      exact lastValue?_eq_some_of_nodup (List.nodup_singleton _) (List.mem_singleton_self _)
    rw [nodeRequest_options, isSet, Option.some_or]
  · have notSet : lastValue? OptionKey.minimumSize (sizeOptions (α := α) t) = none := by
      rw [options, lastValue?_eq_none_iff]
      intro e mem
      rw [List.mem_singleton.mp mem]
      exact otherKey
    rw [nodeRequest_options, notSet, Option.none_or, lastValue?_eq_none_iff]
    exact fun e mem => (portOptions_keys t.value e mem).2

/-- The numbers of a size. -/
def Size.extents (s : Size α) : List α := [s.width, s.height]

/-- The numbers of insets. -/
def Insets.sides (i : Insets α) : List α := [i.top, i.right, i.bottom, i.left]

/-- A node is read as it was meant, if the numbers in its options are. -/
theorem nodeRequest_readsBack (flow : FlowDirection) {t : Tree Box}
    (padding : ∀ x ∈ (compoundPadding : Insets α).sides, Lossless x)
    (size : t.isCompound = false → ∀ x ∈ (leafSize t : Size α).extents, Lossless x) :
    ReadsBack t (nodeRequest flow t : LayoutNode α) where
  leaf := by
    intro isLeaf
    have width := size isLeaf (leafSize t).width List.mem_cons_self
    have height := size isLeaf (leafSize t).height (List.mem_cons_of_mem _ List.mem_cons_self)
    refine ⟨?_, ?_, ?_⟩
    · simp [nodeRequest, isLeaf]
    · simp [nodeRequest, isLeaf]
    · rw [LayoutNode.minimumSize?, minimumSize_leaf flow isLeaf, Option.bind_some, parseSize?_sizeText width height]
  compound := by
    intro isCompound
    obtain ⟨paddingSet, notSet⟩ := options_compound (α := α) flow isCompound
    have sides : ∀ x ∈ [compoundPadding.top, compoundPadding.right, compoundPadding.bottom, compoundPadding.left],
      Lossless (α := α) x := padding
    simp only [List.forall_mem_cons] at sides
    obtain ⟨top, right, bottom, left, -⟩ := sides
    refine ⟨?_, ?_, ?_, ?_⟩
    · simp [nodeRequest, isCompound]
    · simp [nodeRequest, isCompound]
    · rw [LayoutNode.minimumSize?, notSet, Option.bind_none]
    · rw [LayoutNode.padding?, paddingSet, Option.bind_some, parseInsets?_insetsText top right bottom left]

end Node

/-! ### Sizes of placed leaves -/

section Leaves

variable [Scalar α] [NumberText α] [Coordinate κ]

/-- A placed leaf has the size that its request gives. -/
def LeafSized (t : Tree (LayoutNode α)) (u : Tree (PositionedNode α)) : Prop :=
  t.isCompound = false → u.value.size = Placement.leafExtent t.value

theorem LeafSized.moved (t : Tree (LayoutNode α)) (u v : Tree (PositionedNode α)) (leaf : LeafSized t u)
    (moved : Placement.Moved u v) : LeafSized t v := by
  obtain ⟨corner, rfl⟩ := moved
  obtain ⟨n, cs⟩ := u
  exact leaf

theorem leafSized_carried (p : Placement α κ) :
    p.Carried fun t u => List.Forall₂ LeafSized (Tree.preorder t) (Tree.preorder u) where
  leaf := by
    intro n
    rw [Tree.preorder_eq_cons, Tree.preorder_eq_cons]
    exact .cons (fun _ => rfl) .nil
  compound := by
    intro path n inside inner arranged content notEmpty all arrangedInside
    have moved := Placement.moved_indented (Placement.arrange_moved arrangedInside) (n.padding?.getD Insets.zero)
    have isCompound : (Tree.node n inside).isCompound = true := Tree.isCompound_iff.mpr notEmpty
    rw [Tree.preorder_eq_cons, Tree.preorder_eq_cons]
    exact .cons (fun isLeaf => absurd (isCompound.symm.trans isLeaf) Bool.noConfusion)
      (Placement.forall₂_moved LeafSized.moved all moved)

/-- Every leaf of a layout has the size that its request gives. -/
theorem layeredLayout_leafExtent {layering : Layering κ} {g : LayoutGraph α} {placed : PositionedGraph α}
    (laidOut : layeredLayout layering g = .ok placed) :
    List.Forall₂ LeafSized (Tree.preorderForest g.children) (Tree.preorderForest placed.children) := by
  obtain ⟨inner, all, moved⟩ := (leafSized_carried (g.placement layering)).layout laidOut
  exact Placement.forall₂_moved LeafSized.moved all moved

/-- Where a number is the larger one of itself and itself, a leaf gets the size it declares and asks for at least. -/
theorem leafExtent_of_readsBack (larger_self : ∀ x : α, Scalar.larger x x = x) {t : Tree Box} {n : LayoutNode α}
    (readsBack : ReadsBack t n) (isLeaf : t.isCompound = false) : Placement.leafExtent n = leafSize t := by
  obtain ⟨width, height, least⟩ := readsBack.leaf isLeaf
  rw [Placement.leafExtent, width, height, least, Option.getD_some, Option.getD_some]
  dsimp only
  rw [Size.max, larger_self, larger_self]

end Leaves

theorem Float32.larger_self (x : Float32) : Scalar.larger x x = x := by
  have cases : Scalar.larger x x = if x.isNaN then x else if x.isNaN then x else if x < x then x else x := rfl
  rw [cases, ite_self, ite_self, ite_self]

/-! ### Main result -/

/-- The numbers that a request writes as text and an engine reads: the spacings of the configuration, the padding of
containers, and the sizes of the leaves. -/
def writtenNumbers [Scalar α] (d : Diagram α) (config : LayoutConfig α) : List α :=
  [config.nodeSpacing, config.layerSpacing, config.componentSpacing] ++ compoundPadding.sides ++
    (d.allBoxes.filter fun t => !t.isCompound).flatMap fun t => (leafSize t).extents

/-- An engine reads from the request of a diagram the direction of its flow, the spacings of the configuration, and for
every box, in order, the size of a leaf or the padding of a container; and every layout of the request gives the leaves
their sizes. -/
theorem layoutRequest_readsBack (d : Diagram Float32) (config : LayoutConfig Float32)
    (lossless : ∀ x ∈ writtenNumbers d config, NumberText.Lossless x) :
    (layoutRequest d config).direction = d.flow.direction ∧
      Spacing.ofOptions (layoutRequest d config).options =
        ⟨config.nodeSpacing, config.layerSpacing, config.componentSpacing⟩ ∧
      List.Forall₂ (fun t u => ReadsBack t u.value) d.allBoxes (layoutRequest d config).allNodes ∧
      ∀ (κ : Type) [Coordinate κ] (layering : Layering κ) (placed : PositionedGraph Float32),
        layeredLayout layering (layoutRequest d config) = .ok placed →
          List.Forall₂ (fun t u => t.isCompound = false → u.value.size = leafSize t) d.allBoxes
            (Tree.preorderForest placed.children) := by
  have padding : ∀ x ∈ compoundPadding.sides, NumberText.Lossless x := fun x mem =>
    lossless x (List.mem_append_left _ (List.mem_append_right _ mem))
  have sizes : ∀ t ∈ d.allBoxes, t.isCompound = false →
      ∀ x ∈ (leafSize t : Size Float32).extents, NumberText.Lossless x := by
    intro t isBox isLeaf x mem
    refine lossless x (List.mem_append_right _ (List.mem_flatMap.mpr ⟨t, List.mem_filter.mpr ⟨isBox, ?_⟩, mem⟩))
    rw [isLeaf, Bool.not_false]
  have reads : ∀ t ∈ d.allBoxes, ReadsBack t (boxNode d.flow t : Tree (LayoutNode Float32)).value := by
    intro t isBox
    rw [boxNode, Tree.mapTree_value]
    exact nodeRequest_readsBack d.flow padding (sizes t isBox)
  refine ⟨?_, ?_, ?_, ?_⟩
  · rw [LayoutGraph.direction, layoutRequest, rootOptions_direction, ofOption_directionName]
  · have spaced : ∀ x ∈ [config.nodeSpacing, config.layerSpacing, config.componentSpacing], NumberText.Lossless x :=
      fun x mem => lossless x (List.mem_append_left _ (List.mem_append_left _ mem))
    simp only [List.forall_mem_cons] at spaced
    obtain ⟨node, layer, component, -⟩ := spaced
    exact spacing_rootOptions d.flow config node layer component
  · rw [LayoutGraph.allNodes_eq, layoutRequest_nodes, List.forall₂_map_right_iff, List.forall₂_same]
    exact reads
  · intro κ _ layering placed laidOut
    have leaves := layeredLayout_leafExtent laidOut
    rw [layoutRequest_nodes, List.forall₂_map_left_iff] at leaves
    refine ((List.forall₂_and_left _ _).mpr ⟨reads, leaves⟩).imp ?_
    rintro t u ⟨readsBack, leafSized⟩ isLeaf
    rw [leafSized ((Tree.isCompound_mapTree _ t).trans isLeaf)]
    exact leafExtent_of_readsBack Float32.larger_self readsBack isLeaf

/-- A container with a port and a compact leaf in it, beside a leaf with its label inside, in a diagram that runs to the
left. -/
def leafInContainer : Diagram Float32 :=
  { name := some "D"
    title := none
    flow := .rightToLeft
    dpi := Diagram.defaultDpi
    style := .plain
    boxes := [
      .node { (default : Box) with name := "A", ports := [⟨"in", .input, none, none⟩] } [
        .node { (default : Box) with name := "B", technology := some "Rust" } []],
      .node { (default : Box) with name := "C", label? := some "C\nsecond line" } []]
    actors := []
    edges := [⟨⟨"B", none⟩, ⟨"C", none⟩, none, none, ⟨none, false⟩⟩]
    legend := ⟨[], false⟩
    metadata := none }

/-- A spacing that is no whole number is read back as well. -/
theorem leafInContainer_readsBack :
    let config : LayoutConfig Float32 := { LayoutConfig.standard with layerSpacing := 0.1 }
    (∀ x ∈ writtenNumbers leafInContainer config, NumberText.Lossless x) ∧
      (layoutRequest leafInContainer config).direction = .left ∧
      Spacing.ofOptions (layoutRequest leafInContainer config).options = (⟨40.0, 0.1, 40.0⟩ : Spacing Float32) ∧
      List.Forall₂ (fun t u => ReadsBack t u.value) leafInContainer.allBoxes
        (layoutRequest leafInContainer config).allNodes := by
  intro config
  have lossless : ∀ x ∈ writtenNumbers leafInContainer config, NumberText.Lossless x := by decide +kernel
  obtain ⟨direction, spacing, nodes, -⟩ := layoutRequest_readsBack leafInContainer config lossless
  exact ⟨lossless, direction, spacing, nodes⟩

end BoxDiagram
