/-
Module: BoxDiagram.Proofs.NestedLayout
Purpose: A layout with exact arithmetic nests: the children of a container lie inside it within its padding, and no two
  of them overlap.
Main exports: LayoutGraph.NonNegative, Nested, Placement.arrange_arranged, layeredLayout_nested
-/
import BoxDiagram.Proofs.Forest
import BoxDiagram.Proofs.Packing
import BoxDiagram.Proofs.RankPartition

namespace BoxDiagram

/-! ### Places along a direction -/

namespace Direction

/-- The rectangle along a flow of this extent, seen in the plane. -/
def region (d : Direction) (extent : ℚ) (b : Bounds ℚ) : Bounds ℚ :=
  let near := if d.isReversed then extent - b.maxX else b.minX
  let far := if d.isReversed then extent - b.minX else b.maxX
  if d.isHorizontal then ⟨near, b.minY, far, b.maxY⟩ else ⟨b.minY, near, b.maxY, far⟩

theorem apart_region (d : Direction) (extent : ℚ) {a b : Bounds ℚ} (apart : a.Apart b) :
    (d.region extent a).Apart (d.region extent b) := by
  cases d with
  | right => exact apart
  | left =>
      rcases apart with beyond | beyond | beyond | beyond
      · exact .inr (.inl (sub_le_sub_left beyond extent))
      · exact .inl (sub_le_sub_left beyond extent)
      · exact .inr (.inr (.inl beyond))
      · exact .inr (.inr (.inr beyond))
  | down =>
      rcases apart with beyond | beyond | beyond | beyond
      · exact .inr (.inr (.inl beyond))
      · exact .inr (.inr (.inr beyond))
      · exact .inl beyond
      · exact .inr (.inl beyond)
  | up =>
      rcases apart with beyond | beyond | beyond | beyond
      · exact .inr (.inr (.inr (sub_le_sub_left beyond extent)))
      · exact .inr (.inr (.inl (sub_le_sub_left beyond extent)))
      · exact .inl beyond
      · exact .inr (.inl beyond)

/-- What is inside the extents along and across the flow is inside the size they make. -/
theorem within_region (d : Direction) {extent : FlowSize ℚ} {b : Bounds ℚ}
    (within : b.Within ⟨0, 0, extent.main, extent.cross⟩) :
    (d.region extent.main b).Within ⟨0, 0, (d.size extent).width, (d.size extent).height⟩ := by
  obtain ⟨near, top, far, bottom⟩ := within
  dsimp only at near top far bottom
  have nearMirrored : 0 ≤ extent.main - b.maxX := sub_nonneg.mpr far
  have farMirrored : extent.main - b.minX ≤ extent.main := sub_le_self _ near
  cases d with
  | right => exact ⟨near, top, far, bottom⟩
  | left => exact ⟨nearMirrored, top, farMirrored, bottom⟩
  | down => exact ⟨top, near, bottom, far⟩
  | up => exact ⟨top, nearMirrored, bottom, farMirrored⟩

end Direction

namespace Placement

variable {κ : Type}

theorem indent_bounds (padding : Insets ℚ) (u : Tree (PositionedNode ℚ)) :
    (indent padding u).value.bounds = u.value.bounds.shift padding.left padding.top := by
  obtain ⟨n, cs⟩ := u
  exact (Bounds.mk.injEq ..).mpr ⟨rfl, rfl, add_right_comm _ _ _, add_right_comm _ _ _⟩

/-- A child at its place has the rectangle of the place, seen in the plane. -/
theorem slot_bounds (p : Placement ℚ κ) (packed : Packed ℚ) (i : ℕ) (u : Tree (PositionedNode ℚ)) :
    (p.slot packed i u).value.bounds =
      p.direction.region packed.2.main
        (flowBounds ((packed.1.lookup i).getD ⟨0.0, 0.0⟩) (p.direction.flowSize u.value.size)) := by
  obtain ⟨n, cs⟩ := u
  rw [slot]
  generalize (packed.1.lookup i).getD ⟨0.0, 0.0⟩ = place
  generalize p.direction = d
  cases d with
  | right => rfl
  | left => exact (Bounds.mk.injEq ..).mpr ⟨sub_sub _ _ _, rfl, sub_add_cancel _ _, rfl⟩
  | down => rfl
  | up => exact (Bounds.mk.injEq ..).mpr ⟨rfl, sub_sub _ _ _, rfl, sub_add_cancel _ _⟩

end Placement

/-! ### Arranged children -/

/-- The size is not negative in either direction. -/
structure Size.NonNegative (size : Size ℚ) : Prop where
  width : 0 ≤ size.width
  height : 0 ≤ size.height

theorem Size.max_eq (a b : Size ℚ) : a.max b = ⟨Max.max a.width b.width, Max.max a.height b.height⟩ := by
  rw [Size.max, Scalar.larger_eq_max, Scalar.larger_eq_max]

/-- The size, and at least the least size where there is one. -/
def Size.atLeast (size : Size ℚ) : Option (Size ℚ) → Size ℚ
  | none => size
  | some least => ⟨Max.max size.width least.width, Max.max size.height least.height⟩

theorem Size.le_atLeast (size : Size ℚ) (least : Option (Size ℚ)) :
    size.width ≤ (size.atLeast least).width ∧ size.height ≤ (size.atLeast least).height := by
  cases least with
  | none => exact ⟨le_refl _, le_refl _⟩
  | some least => exact ⟨le_max_left _ _, le_max_left _ _⟩

theorem Size.least_le_atLeast (size : Size ℚ) {least? : Option (Size ℚ)} {least : Size ℚ}
    (given : least? = some least) :
    least.width ≤ (size.atLeast least?).width ∧ least.height ≤ (size.atLeast least?).height := by
  cases given
  exact ⟨le_max_right _ _, le_max_right _ _⟩

theorem Direction.flowSize_nonneg (d : Direction) {size : Size ℚ} (nonneg : size.NonNegative) :
    (d.flowSize size).NonNegative := by
  rw [flowSize]
  split
  · exact ⟨nonneg.width, nonneg.height⟩
  · exact ⟨nonneg.height, nonneg.width⟩

theorem Direction.size_nonneg (d : Direction) {extent : FlowSize ℚ} (nonneg : extent.NonNegative) :
    (d.size extent).NonNegative := by
  rw [size]
  split
  · exact ⟨nonneg.main, nonneg.cross⟩
  · exact ⟨nonneg.cross, nonneg.main⟩

/-- Nodes that lie apart from one another in an area of this size. -/
structure Arranged (nodes : List (Tree (PositionedNode ℚ))) (size : Size ℚ) : Prop where
  nonneg : size.NonNegative
  apart : nodes.Pairwise fun a b => a.value.bounds.Apart b.value.bounds
  inside : ∀ c ∈ nodes, c.value.bounds.Within ⟨0, 0, size.width, size.height⟩

variable {κ : Type} [Coordinate κ] {p : Placement ℚ κ}

omit [Coordinate κ] in
/-- The size that the packing knows under a number is that of the child with this number. -/
theorem Placement.slot_bounds_at {children : List (Tree (PositionedNode ℚ))} (packed : Packed ℚ) {i : ℕ}
    (inside : i < children.length) :
    (p.slot packed i children[i]).value.bounds = p.direction.region packed.2.main
      (flowBounds ((packed.1.lookup i).getD ⟨0.0, 0.0⟩) (sizeAt (p.flowSizes children) i)) := by
  have count : (p.flowSizes children).length = children.length := List.length_map _
  rw [slot_bounds, sizeAt_eq (count.symm ▸ inside)]
  simp only [flowSizes, List.getElem_map]

omit [Coordinate κ] in
theorem Placement.flowSizes_nonneg {children : List (Tree (PositionedNode ℚ))}
    (sized : ∀ u ∈ children, u.value.size.NonNegative) : ∀ s ∈ p.flowSizes children, s.NonNegative := by
  intro s mem
  obtain ⟨u, uMem, rfl⟩ := List.mem_map.mp mem
  exact p.direction.flowSize_nonneg (sized u uMem)

/-- Only children are ranked, so the packing knows the sizes of all of them. -/
theorem Placement.ranked_below (once : p.layering.OncePerComponent) {children : List (Tree (PositionedNode ℚ))}
    {edges : List (ℕ × ℕ)} {components : List Ranks}
    (ranked : rankChildren p.layering children.length edges = .ok components) :
    ∀ i ∈ components.flatten.flatten, i < (p.flowSizes children).length := by
  intro i mem
  rw [flowSizes, List.length_map]
  exact List.mem_range.mp ((rankChildren_perm once ranked).mem_iff.mp mem)

/-- Whatever the layering answers, children that are not of negative size end up apart and inside their content. -/
theorem Placement.arrange_arranged (spaced : p.spacing.NonNegative) (once : p.layering.OncePerComponent)
    {path : List String} {children placed : List (Tree (PositionedNode ℚ))} {content : Size ℚ}
    (sized : ∀ u ∈ children, u.value.size.NonNegative) (arranged : p.arrange path children = .ok (placed, content)) :
    Arranged placed content := by
  rcases eq_or_ne children [] with rfl | notEmpty
  · rw [arrange_nil] at arranged
    cases arranged
    exact ⟨⟨Scalar.zero_eq.ge, Scalar.zero_eq.ge⟩, .nil, fun _ mem => absurd mem List.not_mem_nil⟩
  · obtain ⟨components, packed, ranked, packing, rfl, rfl⟩ := arrange_eq_ok notEmpty arranged
    have whole := rankChildren_perm once ranked
    have packs := packComponents_packs spaced (flowSizes_nonneg sized) (ranked_below once ranked)
    rw [← packing] at packs
    have isChild : ∀ i, i < children.length → i ∈ components.flatten.flatten :=
      fun i inside => whole.mem_iff.mpr (List.mem_range.mpr inside)
    refine ⟨p.direction.size_nonneg packs.extent, ?_, ?_⟩
    · rw [List.pairwise_iff_getElem]
      intro i j iInside jInside before
      rw [List.length_mapIdx] at iInside jInside
      rw [List.getElem_mapIdx, List.getElem_mapIdx, slot_bounds_at packed iInside, slot_bounds_at packed jInside]
      exact p.direction.apart_region _ (packs.lookup_apart (isChild i iInside) (isChild j jInside) before.ne)
    · intro c mem
      obtain ⟨i, inside, rfl⟩ := List.mem_mapIdx.mp mem
      rw [slot_bounds_at packed inside]
      exact p.direction.within_region (packs.lookup_within (isChild i inside))

/-! ### What is asked for -/

/-- No inset is negative. -/
structure Insets.NonNegative (i : Insets ℚ) : Prop where
  top : 0 ≤ i.top
  right : 0 ≤ i.right
  bottom : 0 ≤ i.bottom
  left : 0 ≤ i.left

instance (i : Insets ℚ) : Decidable i.NonNegative :=
  decidable_of_iff (0 ≤ i.top ∧ 0 ≤ i.right ∧ 0 ≤ i.bottom ∧ 0 ≤ i.left)
    ⟨fun ⟨top, right, bottom, left⟩ => ⟨top, right, bottom, left⟩,
      fun ⟨top, right, bottom, left⟩ => ⟨top, right, bottom, left⟩⟩

section Requests

variable [NumberText ℚ]

namespace LayoutNode

/-- The size and the padding of a node, where it gives them, are not negative. -/
structure NonNegative (n : LayoutNode ℚ) : Prop where
  width : ∀ w ∈ n.width, 0 ≤ w
  height : ∀ h ∈ n.height, 0 ≤ h
  padding : ∀ i ∈ n.padding?, i.NonNegative

instance (n : LayoutNode ℚ) : Decidable n.NonNegative :=
  decidable_of_iff ((∀ w ∈ n.width, 0 ≤ w) ∧ (∀ h ∈ n.height, 0 ≤ h) ∧ ∀ i ∈ n.padding?, i.NonNegative)
    ⟨fun ⟨width, height, padding⟩ => ⟨width, height, padding⟩,
      fun ⟨width, height, padding⟩ => ⟨width, height, padding⟩⟩

/-- The padding of a node, nothing if it gives none. -/
def insets (n : LayoutNode ℚ) : Insets ℚ := n.padding?.getD Insets.zero

/-- The size a node declares, with nothing for what it leaves out. -/
def declaredSize (n : LayoutNode ℚ) : Size ℚ := ⟨n.width.getD 0, n.height.getD 0⟩

end LayoutNode

/-- The sizes, paddings and spacings of a request are not negative. -/
structure LayoutGraph.NonNegative (g : LayoutGraph ℚ) : Prop where
  nodes : ∀ t ∈ g.allNodes, t.value.NonNegative
  spacing : (Spacing.ofOptions g.options : Spacing ℚ).NonNegative

/-! ### Nested nodes -/

/-- The placed node `u` and the requested node `t` have the same children.  Those of `u` do not overlap, and they are
inside `u` within the padding of `t`; their places are relative to the top left corner of `u`.  A leaf has exactly the
size it asks for.  A container is at least as large as the way from any side of a child to the opposite side of a
child, with the padding on both sides. -/
structure Nested (t : Tree (LayoutNode ℚ)) (u : Tree (PositionedNode ℚ)) : Prop where
  id : u.value.id = t.value.id
  children : u.children.map (·.value.id) = t.children.map (·.value.id)
  apart : u.children.Pairwise fun a b => a.value.bounds.DisjointInteriors b.value.bounds
  inside : ∀ c ∈ u.children,
    c.value.bounds.Within ((⟨0, 0, u.value.width, u.value.height⟩ : Bounds ℚ).reduce t.value.insets)
  leaf : t.children = [] → u.value.size = t.value.declaredSize.atLeast t.value.minimumSize?
  compound : t.children ≠ [] → ∀ a ∈ u.children, ∀ b ∈ u.children,
    b.value.bounds.maxX - a.value.bounds.minX + t.value.insets.horizontal ≤ u.value.width ∧
      b.value.bounds.maxY - a.value.bounds.minY + t.value.insets.vertical ≤ u.value.height
  minimum : ∀ least, t.value.minimumSize? = some least →
    least.width ≤ u.value.width ∧ least.height ≤ u.value.height

/-- Where a node is placed does not count for what is inside it. -/
theorem Nested.moved (t : Tree (LayoutNode ℚ)) (u v : Tree (PositionedNode ℚ)) (nested : Nested t u)
    (moved : Placement.Moved u v) : Nested t v := by
  obtain ⟨corner, rfl⟩ := moved
  obtain ⟨n, cs⟩ := u
  exact ⟨nested.id, nested.children, nested.apart, nested.inside, nested.leaf, nested.compound, nested.minimum⟩

theorem declaredSize_nonneg {n : LayoutNode ℚ} (nonneg : n.NonNegative) : n.declaredSize.NonNegative := by
  constructor
  · cases given : n.width with
    | none => rw [LayoutNode.declaredSize, given, Option.getD_none]
    | some w =>
        rw [LayoutNode.declaredSize, given, Option.getD_some]
        exact nonneg.width w given
  · cases given : n.height with
    | none => rw [LayoutNode.declaredSize, given, Option.getD_none]
    | some h =>
        rw [LayoutNode.declaredSize, given, Option.getD_some]
        exact nonneg.height h given

theorem insets_nonneg {n : LayoutNode ℚ} (nonneg : n.NonNegative) : n.insets.NonNegative := by
  rw [LayoutNode.insets]
  cases given : n.padding? with
  | none => exact ⟨Scalar.zero_eq.ge, Scalar.zero_eq.ge, Scalar.zero_eq.ge, Scalar.zero_eq.ge⟩
  | some i => exact nonneg.padding i given

theorem leafExtent_eq (n : LayoutNode ℚ) : Placement.leafExtent n = n.declaredSize.atLeast n.minimumSize? := by
  have declared : (⟨n.width.getD 0.0, n.height.getD 0.0⟩ : Size ℚ) = n.declaredSize := by
    rw [Scalar.zero_eq, LayoutNode.declaredSize]
  rw [Placement.leafExtent, declared]
  cases n.minimumSize? with
  | none => rfl
  | some least => exact Size.max_eq _ _

theorem containerExtent_eq (n : LayoutNode ℚ) (content : Size ℚ) :
    Placement.containerExtent n content = (content.pad n.insets).atLeast n.minimumSize? := by
  rw [Placement.containerExtent]
  cases n.minimumSize? with
  | none => rfl
  | some least => exact Size.max_eq _ _

/-! ### Going through the nodes -/

/-- A placed node is nested in itself and everywhere inside, if nothing that is asked for is negative. -/
def NestedInside (t : Tree (LayoutNode ℚ)) (u : Tree (PositionedNode ℚ)) : Prop :=
  (∀ s ∈ Tree.preorder t, s.value.NonNegative) →
    u.value.size.NonNegative ∧ List.Forall₂ Nested (Tree.preorder t) (Tree.preorder u)

theorem nested_leaf (n : LayoutNode ℚ) :
    Nested (.node n []) (.node (Placement.sized n (Placement.leafExtent n)) []) where
  id := rfl
  children := rfl
  apart := .nil
  inside := fun _ mem => absurd mem List.not_mem_nil
  leaf := fun _ => leafExtent_eq n
  compound := fun notEmpty => absurd rfl notEmpty
  minimum := by
    intro least given
    rw [Tree.value_node] at given
    have bound := Size.least_le_atLeast n.declaredSize given
    rw [← leafExtent_eq] at bound
    exact bound

/-- Children that were arranged in a content and moved by the padding are inside the container within its padding. -/
theorem indent_within {n : LayoutNode ℚ} {arranged : List (Tree (PositionedNode ℚ))} {content : Size ℚ}
    (lies : Arranged arranged content) :
    ∀ c ∈ arranged.map (Placement.indent n.insets), c.value.bounds.Within
      ((⟨0, 0, (Placement.containerExtent n content).width, (Placement.containerExtent n content).height⟩ :
        Bounds ℚ).reduce n.insets) := by
  have room := Size.le_atLeast (content.pad n.insets) n.minimumSize?
  rw [← containerExtent_eq] at room
  obtain ⟨wide, high⟩ := room
  dsimp only [Size.pad, Insets.horizontal, Insets.vertical] at wide high
  intro c mem
  obtain ⟨a, aMem, rfl⟩ := List.mem_map.mp mem
  obtain ⟨left, top, right, bottom⟩ := lies.inside a aMem
  rw [Placement.indent_bounds]
  dsimp only at left top right bottom
  refine ⟨?_, ?_, ?_, ?_⟩
  all_goals
    dsimp only [Bounds.reduce, Bounds.shift]
    linarith

/-- A container with its children around the content they were arranged in is nested. -/
theorem nested_container {n : LayoutNode ℚ} {inside : List (Tree (LayoutNode ℚ))}
    {arranged : List (Tree (PositionedNode ℚ))} {content : Size ℚ} (notEmpty : inside ≠ [])
    (lies : Arranged arranged content) (sameIds : arranged.map (·.value.id) = inside.map (·.value.id)) :
    Nested (.node n inside)
      (.node (Placement.sized n (Placement.containerExtent n content)) (arranged.map (Placement.indent n.insets))) := by
  have within := indent_within (n := n) lies
  exact {
    id := rfl
    children := by
      rw [Tree.children_node, Tree.children_node, List.map_map, ← sameIds]
      exact List.map_congr_left fun a _ => by
        rw [Function.comp_apply, Placement.indent_eq_moveTo, Placement.moveTo_id]
    apart := by
      rw [Tree.children_node, List.pairwise_map]
      refine lies.apart.imp fun apart => ?_
      rw [Placement.indent_bounds, Placement.indent_bounds]
      exact (apart.shift _ _).disjointInteriors
    inside := within
    leaf := fun empty => absurd empty notEmpty
    compound := by
      intro _ a aMem b bMem
      obtain ⟨left, top, -, -⟩ := within a aMem
      obtain ⟨-, -, right, bottom⟩ := within b bMem
      dsimp only [Bounds.reduce] at left top right bottom
      dsimp only [Tree.value_node, Placement.sized, Insets.horizontal, Insets.vertical]
      constructor <;> linarith
    minimum := by
      intro least given
      rw [Tree.value_node] at given
      have bound := Size.least_le_atLeast (content.pad n.insets) given
      rw [← containerExtent_eq] at bound
      exact bound }

/-- What is known of the nodes inside a list, taken apart: their sizes, their ids, and everything inside them. -/
theorem nested_forest {ts : List (Tree (LayoutNode ℚ))} {us : List (Tree (PositionedNode ℚ))}
    (nonneg : ∀ s ∈ Tree.preorderForest ts, s.value.NonNegative) (all : List.Forall₂ NestedInside ts us) :
    (∀ u ∈ us, u.value.size.NonNegative) ∧ us.map (·.value.id) = ts.map (·.value.id) ∧
      List.Forall₂ (fun t u => List.Forall₂ Nested (Tree.preorder t) (Tree.preorder u)) ts us := by
  have inside : List.Forall₂ (fun t u => u.value.size.NonNegative ∧
      List.Forall₂ Nested (Tree.preorder t) (Tree.preorder u)) ts us := Tree.forall₂_of_preorderForest nonneg all
  clear nonneg all
  induction inside with
  | nil => exact ⟨fun _ mem => absurd mem List.not_mem_nil, rfl, .nil⟩
  | cons here _ ih =>
      obtain ⟨size, nested⟩ := here
      obtain ⟨sizes, ids, nestedRest⟩ := ih
      refine ⟨List.forall_mem_cons.mpr ⟨size, sizes⟩, ?_, .cons nested nestedRest⟩
      rw [Tree.preorder_eq_cons, Tree.preorder_eq_cons] at nested
      rw [List.map_cons, List.map_cons, ids, (List.forall₂_cons.mp nested).1.id]

/-- Being nested passes from the children of a container to the container. -/
theorem nestedInside_carried (spaced : p.spacing.NonNegative) (once : p.layering.OncePerComponent) :
    p.Carried NestedInside where
  leaf := by
    intro n nonneg
    rw [Tree.preorder_eq_cons, Tree.preorder_eq_cons]
    have declared := declaredSize_nonneg (nonneg (.node n []) (by rw [Tree.preorder]; exact List.mem_cons_self))
    have bound := Size.le_atLeast n.declaredSize n.minimumSize?
    rw [← leafExtent_eq] at bound
    exact ⟨⟨declared.width.trans bound.1, declared.height.trans bound.2⟩, .cons (nested_leaf n) .nil⟩
  compound := by
    intro path n inside inner arranged content notEmpty all arrangedInside nonneg
    rw [Tree.preorder_eq_cons, Tree.children_node] at nonneg ⊢
    obtain ⟨nonnegHere, nonnegInside⟩ := List.forall_mem_cons.mp nonneg
    obtain ⟨sizes, ids, nested⟩ := nested_forest nonnegInside all
    have lies := p.arrange_arranged spaced once sizes arrangedInside
    have moved := Placement.arrange_moved arrangedInside
    have sameIds := (Placement.ids_of_moved moved).trans ids
    have padding := insets_nonneg nonnegHere
    have room := Size.le_atLeast (content.pad n.insets) n.minimumSize?
    rw [← containerExtent_eq] at room
    refine ⟨⟨?_, ?_⟩, ?_⟩
    · exact (add_nonneg lies.nonneg.width (add_nonneg padding.left padding.right)).trans room.1
    · exact (add_nonneg lies.nonneg.height (add_nonneg padding.top padding.bottom)).trans room.2
    · rw [Tree.preorder_eq_cons]
      exact .cons (nested_container notEmpty lies sameIds)
        (Placement.forall₂_moved Nested.moved nested (Placement.moved_indented moved n.insets))

/-! ### Main result -/

/-- Whatever coordinates the layering gives, a layout of a request without negative numbers nests: the outermost nodes
are apart and inside the drawing, and every node is nested in what was asked for. -/
theorem layeredLayout_nested {layering : Layering κ} (once : layering.OncePerComponent) {g : LayoutGraph ℚ}
    (nonneg : g.NonNegative) {placed : PositionedGraph ℚ} (laidOut : layeredLayout layering g = .ok placed) :
    (placed.children.Pairwise fun a b => a.value.bounds.DisjointInteriors b.value.bounds) ∧
      (∀ c ∈ placed.children, c.value.bounds.Within ⟨0, 0, placed.width, placed.height⟩) ∧
      List.Forall₂ Nested g.allNodes (Tree.preorderForest placed.children) := by
  obtain ⟨inner, nodes, placedInside, -, arranged, -⟩ := layeredLayout_eq_ok laidOut
  have allNodes : g.allNodes = Tree.preorderForest g.children := Tree.flatMap_visit_singleton g.children
  have carried : (g.placement layering).Carried NestedInside := nestedInside_carried nonneg.spacing once
  obtain ⟨sizes, -, nested⟩ := nested_forest (allNodes ▸ nonneg.nodes) (carried.placeForest [] g.children placedInside)
  have lies := Placement.arrange_arranged nonneg.spacing once sizes arranged
  rw [allNodes]
  exact ⟨lies.apart.imp Bounds.Apart.disjointInteriors, lies.inside,
    Placement.forall₂_moved Nested.moved nested (Placement.arrange_moved arranged)⟩

end Requests

/-- A layering that always gives the same coordinates: the children 0 and 1 in one layer, and 2 in the next one. -/
def threePlaces : Layering ℚ := fun _ => .ok [[⟨0, 0, 0⟩, ⟨1, 5, 0⟩, ⟨2, 0, 1⟩]]

/-- A container with a leaf that declares its size and one with a minimum, beside another leaf, laid out to the left. -/
def leafBesideContainer : LayoutGraph ℚ :=
  { id := rootId
    options := OrderedMap.empty.insert OptionKey.direction "left"
    children := [
      .node { id := "A", labels := [], ports := [], width := none, height := none,
              options := OrderedMap.empty.insert OptionKey.padding "[left=1,top=2.5]" } [
        .node { id := "B", labels := [], ports := [], width := some 3, height := some 2,
                options := OrderedMap.empty } [],
        .node { id := "C", labels := [], ports := [], width := none, height := some 1,
                options := OrderedMap.empty.insert OptionKey.minimumSize "(4,0.5)" } []],
      .node { id := "D", labels := [], ports := [], width := some 7, height := some 5, options := OrderedMap.empty } []]
    edges := [⟨"e0", ["B"], ["D"], []⟩, ⟨"e1", ["B"], ["C"], []⟩] }

/-- The container is nested in what was asked for, and so are the leaves in it and beside it. -/
theorem leafBesideContainer_nested :
    threePlaces.OncePerComponent ∧ leafBesideContainer.NonNegative ∧
      ∃ placed, layeredLayout threePlaces leafBesideContainer = .ok placed ∧
        (placed.children.Pairwise fun a b => a.value.bounds.DisjointInteriors b.value.bounds) ∧
        (∀ c ∈ placed.children, c.value.bounds.Within ⟨0, 0, placed.width, placed.height⟩) ∧
        List.Forall₂ Nested leafBesideContainer.allNodes (Tree.preorderForest placed.children) := by
  have once : threePlaces.OncePerComponent := by
    intro edges components answered
    cases answered
    decide
  have spaced : (Spacing.ofOptions leafBesideContainer.options : Spacing ℚ).NonNegative :=
    ⟨by decide +kernel, by decide +kernel, by decide +kernel⟩
  have nonneg : leafBesideContainer.NonNegative := ⟨by decide +kernel, spaced⟩
  have succeeds : (layeredLayout threePlaces leafBesideContainer).isOk = true := by decide +kernel
  obtain ⟨placed, laidOut⟩ := exists_eq_ok_of_isOk succeeds
  exact ⟨once, nonneg, placed, laidOut, layeredLayout_nested once nonneg laidOut⟩

end BoxDiagram
