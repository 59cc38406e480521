/-
Module: BoxDiagram.Proofs.PlacementSteps
Purpose: What a placement that succeeds is made of: one statement for each stage, from the children of a container up
  to the whole layout.
Main exports: bind_eq_ok_iff, Placement.Moved, Placement.slot, Placement.arrange_eq, Placement.arrange_eq_ok,
  Placement.arrange_moved, Placement.placeChildren, Placement.CarriedBelow, Placement.Carried, placeNodes_eq,
  layeredLayout_eq_ok, Placement.Carried.layout
-/
import BoxDiagram.Layout.Engine
import BoxDiagram.Proofs.Forest
import Mathlib.Data.List.Forall2

namespace BoxDiagram

/-- Two steps succeed together when the first one succeeds and the second one does so on its result. -/
theorem bind_eq_ok_iff {ε β γ : Type} {first : Except ε β} {second : β → Except ε γ} {result : γ} :
    first >>= second = .ok result ↔ ∃ value, first = .ok value ∧ second value = .ok result := by
  cases first with
  | error fault =>
      constructor
      · intro failed
        cases failed
      · rintro ⟨_, failed, _⟩
        cases failed
  | ok value =>
      constructor
      · intro succeeded
        exact ⟨value, rfl, succeeded⟩
      · rintro ⟨_, same, succeeded⟩
        cases same
        exact succeeded

/-- What follows on a step counts only for the result of the step. -/
theorem bind_congr_of_ok {ε β γ : Type} {first : Except ε β} {f h : β → Except ε γ}
    (alike : ∀ value, first = .ok value → f value = h value) : first >>= f = first >>= h := by
  cases first with
  | error fault => rfl
  | ok value => exact alike value rfl

theorem pure_eq_ok_iff {ε β : Type} {value result : β} : (pure value : Except ε β) = .ok result ↔ value = result :=
  ⟨Except.ok.inj, congrArg Except.ok⟩

theorem map_eq_ok_iff {ε β γ : Type} {outcome : Except ε β} {f : β → γ} {result : γ} :
    outcome.map f = .ok result ↔ ∃ value, outcome = .ok value ∧ f value = result := by
  cases outcome with
  | error fault => simp [Except.map]
  | ok value => simp [Except.map]

/-- A result that is no failure is a success with some value. -/
theorem exists_eq_ok_of_isOk {ε β : Type} {result : Except ε β} (succeeds : result.isOk = true) :
    ∃ value, result = .ok value := by
  cases result with
  | error fault => exact absurd succeeds Bool.false_ne_true
  | ok value => exact ⟨value, rfl⟩

theorem eq_ok_of_toOption_eq_some {ε β : Type} {result : Except ε β} {value : β}
    (succeeds : result.toOption = some value) : result = .ok value := by
  cases result with
  | error fault => cases succeeds
  | ok found => exact congrArg Except.ok (Option.some.inj succeeds)

/-! ### Nodes that are moved -/

namespace Placement

variable {α : Type}

@[simp] theorem moveTo_children (corner : Point α) (u : Tree (PositionedNode α)) :
    (moveTo corner u).children = u.children := by
  cases u
  rfl

@[simp] theorem moveTo_id (corner : Point α) (u : Tree (PositionedNode α)) :
    (moveTo corner u).value.id = u.value.id := by
  cases u
  rfl

theorem moveTo_moveTo (corner corner' : Point α) (u : Tree (PositionedNode α)) :
    moveTo corner' (moveTo corner u) = moveTo corner' u := by
  cases u
  rfl

/-- The second node is the first one at another place. -/
def Moved (u v : Tree (PositionedNode α)) : Prop := ∃ corner, v = moveTo corner u

theorem indent_eq_moveTo [Scalar α] (padding : Insets α) (u : Tree (PositionedNode α)) :
    indent padding u = moveTo ⟨u.value.x + padding.left, u.value.y + padding.top⟩ u := by
  cases u
  rfl

theorem Moved.indent [Scalar α] {u v : Tree (PositionedNode α)} (moved : Moved u v) (padding : Insets α) :
    Moved u (indent padding v) := by
  obtain ⟨corner, rfl⟩ := moved
  rw [indent_eq_moveTo, moveTo_moveTo]
  exact ⟨_, rfl⟩

/-- A relation that does not look at the places of nodes, and that relates what a list gives for each tree to the nodes
of the tree, also relates it to the nodes after the outermost ones have moved. -/
theorem forall₂_flatMap_moved {β γ : Type} {f : β → List γ} {R : γ → Tree (PositionedNode α) → Prop}
    (stable : ∀ x u v, R x u → Moved u v → R x v) {ts : List β} {us vs : List (Tree (PositionedNode α))}
    (all : List.Forall₂ (fun t u => List.Forall₂ R (f t) (Tree.preorder u)) ts us) (moved : List.Forall₂ Moved us vs) :
    List.Forall₂ R (ts.flatMap f) (Tree.preorderForest vs) := by
  induction all generalizing vs with
  | nil =>
      cases moved
      rw [Tree.preorderForest]
      exact .nil
  | @cons t u ts us here _ ih =>
      cases moved with
      | @cons _ v _ vs movedHere movedRest =>
          rw [List.flatMap_cons, Tree.preorderForest_cons]
          refine List.rel_append ?_ (ih movedRest)
          rw [Tree.preorder_eq_cons] at here ⊢
          obtain ⟨x, xs, top, inside, whole⟩ := List.forall₂_cons_right_iff.mp here
          rw [whole]
          refine .cons (stable x u v top movedHere) ?_
          obtain ⟨corner, rfl⟩ := movedHere
          rw [moveTo_children]
          exact inside

/-- The same for a relation between the nodes of two forests. -/
theorem forall₂_moved {β : Type} {R : Tree β → Tree (PositionedNode α) → Prop}
    (stable : ∀ t u v, R t u → Moved u v → R t v) {ts : List (Tree β)} {us vs : List (Tree (PositionedNode α))}
    (all : List.Forall₂ (fun t u => List.Forall₂ R (Tree.preorder t) (Tree.preorder u)) ts us)
    (moved : List.Forall₂ Moved us vs) :
    List.Forall₂ R (Tree.preorderForest ts) (Tree.preorderForest vs) := by
  rw [Tree.preorderForest_eq_flatMap]
  exact forall₂_flatMap_moved stable all moved

theorem moved_indented [Scalar α] {us vs : List (Tree (PositionedNode α))} (moved : List.Forall₂ Moved us vs)
    (padding : Insets α) : List.Forall₂ Moved us (vs.map (Placement.indent padding)) :=
  List.forall₂_map_right_iff.mpr (moved.imp fun _ _ here => here.indent padding)

theorem ids_of_moved {us vs : List (Tree (PositionedNode α))} (moved : List.Forall₂ Moved us vs) :
    vs.map (·.value.id) = us.map (·.value.id) := by
  induction moved with
  | nil => rfl
  | cons here _ ih =>
      obtain ⟨corner, rfl⟩ := here
      rw [List.map_cons, List.map_cons, ih, moveTo_id]

end Placement

/-! ### Stages -/

variable {α κ : Type} [Scalar α] [Coordinate κ]

/-- The layers of children come from the answer of the layering, which is not asked when there are no edges. -/
theorem rankChildren_eq_ok {layering : Layering κ} {count : Nat} {edges : List (Nat × Nat)} {ranks : List Ranks}
    (ranked : rankChildren layering count edges = .ok ranks) :
    ∃ components, (edges = [] ∧ components = [] ∨ layering edges = .ok components) ∧
      ranks = ((componentRanks count edges components []).1 ++
        ((List.range count).filter fun i => !(componentRanks count edges components []).2.contains i).map
          fun i => [[i]]).mergeSort startsBefore := by
  rw [rankChildren] at ranked
  split at ranked
  · rename_i noEdges
    obtain ⟨components, nothing, rest⟩ := bind_eq_ok_iff.mp ranked
    have isEmpty := List.isEmpty_iff.mp noEdges
    exact ⟨components, .inl ⟨isEmpty, (pure_eq_ok_iff.mp nothing).symm⟩, (pure_eq_ok_iff.mp rest).symm⟩
  · obtain ⟨components, answered, rest⟩ := bind_eq_ok_iff.mp ranked
    exact ⟨components, .inr answered, (pure_eq_ok_iff.mp rest).symm⟩

namespace Placement

/-- The packed children of a container: their places and the extent of all of them. -/
abbrev Packed (α : Type) := List (Nat × FlowPoint α) × FlowSize α

/-- The sizes of children seen along the flow. -/
def flowSizes (p : Placement α κ) (children : List (Tree (PositionedNode α))) : List (FlowSize α) :=
  children.map fun t => p.direction.flowSize t.value.size

/-- The child with number `i` at its place. -/
def slot (p : Placement α κ) (packed : Packed α) (i : Nat) (t : Tree (PositionedNode α)) : Tree (PositionedNode α) :=
  moveTo (orient p.direction packed.2.main (p.direction.flowSize t.value.size)
    ((packed.1.lookup i).getD ⟨0.0, 0.0⟩)) t

/-- Without children there is nothing to arrange. -/
theorem arrange_nil (p : Placement α κ) (path : List String) : p.arrange path [] = .ok ([], Size.zero) := rfl

/-- Children are ranked and packed, and each is put at its place. -/
theorem arrange_eq (p : Placement α κ) (path : List String) {children : List (Tree (PositionedNode α))}
    (notEmpty : children ≠ []) :
    p.arrange path children =
      (rankChildren p.layering children.length (p.projectEdges path (children.map fun t => t.value.id))).map
        fun components =>
          let packed := packComponents p.spacing (p.flowSizes children) components
          (children.mapIdx (p.slot packed), p.direction.size packed.2) := by
  have paired : children.zip (p.flowSizes children) =
      children.map fun t => (t, p.direction.flowSize t.value.size) := by
    rw [flowSizes, ← List.zip_map', List.map_id']
  rw [arrange, List.isEmpty_eq_false_iff.mpr notEmpty, if_neg Bool.false_ne_true]
  dsimp only
  rw [← flowSizes, paired]
  cases rankChildren p.layering children.length (p.projectEdges path (children.map fun t => t.value.id)) with
  | error fault => rfl
  | ok components =>
      refine congrArg Except.ok (Prod.ext ?_ rfl)
      dsimp only
      rw [List.mapIdx_eq_zipIdx_map, List.zipIdx_map, List.map_map]
      rfl

/-- Children that are arranged have been ranked and packed, and each is at its place. -/
theorem arrange_eq_ok {p : Placement α κ} {path : List String} {children : List (Tree (PositionedNode α))}
    {placed : List (Tree (PositionedNode α))} {content : Size α} (notEmpty : children ≠ [])
    (arranged : p.arrange path children = .ok (placed, content)) :
    ∃ components packed,
      rankChildren p.layering children.length (p.projectEdges path (children.map fun t => t.value.id)) =
        .ok components ∧
      packed = packComponents p.spacing (p.flowSizes children) components ∧
      placed = children.mapIdx (p.slot packed) ∧ content = p.direction.size packed.2 := by
  rw [arrange_eq p path notEmpty] at arranged
  cases ranked : rankChildren p.layering children.length (p.projectEdges path (children.map fun t => t.value.id)) with
  | error fault =>
      rw [ranked] at arranged
      cases arranged
  | ok components =>
      rw [ranked] at arranged
      cases arranged
      exact ⟨components, _, rfl, rfl, rfl, rfl⟩

/-- Arranging moves the children and changes nothing else about them. -/
theorem arrange_moved {p : Placement α κ} {path : List String} {children placed : List (Tree (PositionedNode α))}
    {content : Size α} (arranged : p.arrange path children = .ok (placed, content)) :
    List.Forall₂ Moved children placed := by
  rcases eq_or_ne children [] with rfl | notEmpty
  · rw [arrange_nil] at arranged
    cases arranged
    exact .nil
  · obtain ⟨_, packed, -, -, rfl, -⟩ := arrange_eq_ok notEmpty arranged
    rw [List.forall₂_iff_get]
    refine ⟨List.length_mapIdx.symm, fun i _ _ => ?_⟩
    rw [List.get_eq_getElem, List.get_eq_getElem, List.getElem_mapIdx]
    exact ⟨_, rfl⟩

variable [NumberText α]

theorem placeTree_leaf (p : Placement α κ) (parent : List String) (n : LayoutNode α) :
    p.placeTree parent (.node n []) = .ok (.node (sized n (leafExtent n)) []) := by
  rw [placeTree]

/-- The nodes inside the container at `path` at their places, and the extent of their content. -/
def placeChildren (p : Placement α κ) (path : List String) (inside : List (Tree (LayoutNode α))) :
    Except String (List (Tree (PositionedNode α)) × Size α) := do
  p.arrange path (← p.placeForest path inside)

/-- A container has the size that its content needs, and the nodes inside it are moved by its padding. -/
theorem placeTree_compound (p : Placement α κ) (parent : List String) (n : LayoutNode α)
    {inside : List (Tree (LayoutNode α))} (notEmpty : inside ≠ []) :
    p.placeTree parent (.node n inside) =
      (p.placeChildren (parent ++ [n.id]) inside).map fun placed =>
        .node (sized n (containerExtent n placed.2)) (placed.1.map (indent (n.padding?.getD Insets.zero))) := by
  cases inside with
  | nil => exact absurd rfl notEmpty
  | cons c cs =>
      rw [placeTree, placeChildren]
      cases p.placeForest (parent ++ [n.id]) (c :: cs) with
      | error fault => rfl
      | ok inner =>
          change (p.arrange (parent ++ [n.id]) inner >>= _) = (p.arrange (parent ++ [n.id]) inner).map _
          cases p.arrange (parent ++ [n.id]) inner <;> rfl

/-- A container is placed after what is inside it has been placed and arranged. -/
theorem placeTree_eq_ok {p : Placement α κ} {parent : List String} {n : LayoutNode α}
    {inside : List (Tree (LayoutNode α))} {u : Tree (PositionedNode α)} (notEmpty : inside ≠ [])
    (placed : p.placeTree parent (.node n inside) = .ok u) :
    ∃ inner arranged content,
      p.placeForest (parent ++ [n.id]) inside = .ok inner ∧
      p.arrange (parent ++ [n.id]) inner = .ok (arranged, content) ∧
      u = .node (sized n (containerExtent n content)) (arranged.map (indent (n.padding?.getD Insets.zero))) := by
  cases inside with
  | nil => exact absurd rfl notEmpty
  | cons c cs =>
      rw [placeTree] at placed
      obtain ⟨inner, placedInside, rest⟩ := bind_eq_ok_iff.mp placed
      obtain ⟨⟨arranged, content⟩, arrangedInside, rest⟩ := bind_eq_ok_iff.mp rest
      exact ⟨inner, arranged, content, placedInside, arrangedInside, (pure_eq_ok_iff.mp rest).symm⟩

theorem placeForest_nil (p : Placement α κ) (parent : List String) : p.placeForest parent [] = .ok [] := by
  rw [placeForest]

theorem placeForest_cons_eq_ok {p : Placement α κ} {parent : List String} {t : Tree (LayoutNode α)}
    {ts : List (Tree (LayoutNode α))} {us : List (Tree (PositionedNode α))}
    (placed : p.placeForest parent (t :: ts) = .ok us) :
    ∃ first rest, p.placeTree parent t = .ok first ∧ p.placeForest parent ts = .ok rest ∧ us = first :: rest := by
  rw [placeForest] at placed
  obtain ⟨first, placedFirst, remaining⟩ := bind_eq_ok_iff.mp placed
  obtain ⟨rest, placedRest, same⟩ := bind_eq_ok_iff.mp remaining
  exact ⟨first, rest, placedFirst, placedRest, (pure_eq_ok_iff.mp same).symm⟩

/-! ### Going through the nodes -/

/-- A relation between nodes and their placed forms, under the ids of the nodes around them, that holds of every leaf,
and of a container when it holds of all that is inside it. -/
structure CarriedBelow (p : Placement α κ)
    (R : List String → Tree (LayoutNode α) → Tree (PositionedNode α) → Prop) : Prop where
  leaf : ∀ (parent : List String) (n : LayoutNode α), R parent (.node n []) (.node (sized n (leafExtent n)) [])
  compound : ∀ (parent : List String) (n : LayoutNode α) (inside : List (Tree (LayoutNode α)))
    (inner arranged : List (Tree (PositionedNode α))) (content : Size α),
    inside ≠ [] → List.Forall₂ (R (parent ++ [n.id])) inside inner →
      p.arrange (parent ++ [n.id]) inner = .ok (arranged, content) →
        R parent (.node n inside)
          (.node (sized n (containerExtent n content)) (arranged.map (indent (n.padding?.getD Insets.zero))))

/-- Such a relation that does not look at the nodes around. -/
structure Carried (p : Placement α κ) (R : Tree (LayoutNode α) → Tree (PositionedNode α) → Prop) : Prop where
  leaf : ∀ n : LayoutNode α, R (.node n []) (.node (sized n (leafExtent n)) [])
  compound : ∀ (path : List String) (n : LayoutNode α) (inside : List (Tree (LayoutNode α)))
    (inner arranged : List (Tree (PositionedNode α))) (content : Size α),
    inside ≠ [] → List.Forall₂ R inside inner → p.arrange path inner = .ok (arranged, content) →
      R (.node n inside)
        (.node (sized n (containerExtent n content)) (arranged.map (indent (n.padding?.getD Insets.zero))))

section Carried

variable {p : Placement α κ} {R : List String → Tree (LayoutNode α) → Tree (PositionedNode α) → Prop}

mutual

/-- Such a relation holds of every node that is placed. -/
theorem CarriedBelow.placeTree (carried : CarriedBelow p R) (parent : List String) :
    (t : Tree (LayoutNode α)) → {u : Tree (PositionedNode α)} → p.placeTree parent t = .ok u → R parent t u
  | .node n [], u, placed => by
      rw [placeTree_leaf] at placed
      cases placed
      exact carried.leaf parent n
  | .node n (c :: cs), u, placed => by
      obtain ⟨inner, arranged, content, placedInside, arrangedInside, rfl⟩ :=
        placeTree_eq_ok (List.cons_ne_nil c cs) placed
      exact carried.compound parent n (c :: cs) inner arranged content (List.cons_ne_nil c cs)
        (carried.placeForest _ (c :: cs) placedInside) arrangedInside

/-- The same for the nodes of a list, in order. -/
theorem CarriedBelow.placeForest (carried : CarriedBelow p R) (parent : List String) :
    (ts : List (Tree (LayoutNode α))) → {us : List (Tree (PositionedNode α))} → p.placeForest parent ts = .ok us →
      List.Forall₂ (R parent) ts us
  | [], us, placed => by
      rw [placeForest_nil] at placed
      cases placed
      exact .nil
  | t :: ts, us, placed => by
      obtain ⟨first, rest, placedFirst, placedRest, rfl⟩ := placeForest_cons_eq_ok placed
      exact .cons (carried.placeTree parent t placedFirst) (carried.placeForest parent ts placedRest)

end

theorem Carried.placeForest {S : Tree (LayoutNode α) → Tree (PositionedNode α) → Prop} (carried : Carried p S)
    (parent : List String) (ts : List (Tree (LayoutNode α))) {us : List (Tree (PositionedNode α))}
    (placed : p.placeForest parent ts = .ok us) : List.Forall₂ S ts us := by
  have below : CarriedBelow p fun _ => S :=
    ⟨fun _ => carried.leaf, fun parent n => carried.compound (parent ++ [n.id]) n⟩
  exact below.placeForest parent ts placed

end Carried

end Placement

variable [NumberText α]

/-- The outermost nodes of a drawing are placed like those of a container, and the drawing has the size of its
content. -/
theorem placeNodes_eq (layering : Layering κ) (g : LayoutGraph α) :
    placeNodes layering g =
      ((g.placement layering).placeChildren [] g.children).map fun placed =>
        { width := placed.2.width, height := placed.2.height, children := placed.1, edges := [] } := by
  rw [placeNodes, Placement.placeChildren]
  cases (g.placement layering).placeForest [] g.children with
  | error fault => rfl
  | ok inner =>
      change ((g.placement layering).arrange [] inner >>= _) = ((g.placement layering).arrange [] inner).map _
      cases (g.placement layering).arrange [] inner <;> rfl

/-- A layout holds the outermost nodes placed and arranged, and the edges routed over them. -/
theorem layeredLayout_eq_ok {layering : Layering κ} {g : LayoutGraph α} {placed : PositionedGraph α}
    (laidOut : layeredLayout layering g = .ok placed) :
    ∃ inner nodes,
      (g.placement layering).placeForest [] g.children = .ok inner ∧
      placeNodes layering g = .ok nodes ∧
      (g.placement layering).arrange [] inner = .ok (placed.children, ⟨placed.width, placed.height⟩) ∧
      nodes.children = placed.children ∧ placed.edges = routeEdges g nodes g.direction.isHorizontal := by
  obtain ⟨nodes, placedNodes, rest⟩ := bind_eq_ok_iff.mp laidOut
  have whole := pure_eq_ok_iff.mp rest
  obtain ⟨inner, placedInside, arranged⟩ := bind_eq_ok_iff.mp placedNodes
  obtain ⟨⟨children, size⟩, arranged, same⟩ := bind_eq_ok_iff.mp arranged
  refine ⟨inner, nodes, placedInside, placedNodes, ?_, ?_, ?_⟩
  all_goals
    rw [← whole]
  rw [← pure_eq_ok_iff.mp same]
  exact arranged

/-- What passes from the children of a container to the container holds of the outermost nodes of a layout, which are
then moved to their places. -/
theorem Placement.Carried.layout {layering : Layering κ} {g : LayoutGraph α} {placed : PositionedGraph α}
    {R : Tree (LayoutNode α) → Tree (PositionedNode α) → Prop} (carried : (g.placement layering).Carried R)
    (laidOut : layeredLayout layering g = .ok placed) :
    ∃ inner, List.Forall₂ R g.children inner ∧ List.Forall₂ Placement.Moved inner placed.children := by
  obtain ⟨inner, nodes, placedInside, -, arranged, -⟩ := layeredLayout_eq_ok laidOut
  exact ⟨inner, carried.placeForest [] g.children placedInside, Placement.arrange_moved arranged⟩

end BoxDiagram
