/-
Module: BoxDiagram.Proofs.AddedEdge
Purpose: What one more edge changes in a layout.  Only the container in which the edge is ranked and the ones around it
  may be arranged anew; all others keep what is inside them.  An edge that adds no pair to any container gets at most a
  route, and nothing else changes.
Main exports: LayoutGraph.withEdge, Placement.AddsNothing, Container.placeChildren_withEdge,
  PositionedGraph.childrenIn?, TellsNothing, layeredLayout_withEdge, twoFrames_withEdge
-/
import BoxDiagram.Proofs.CommonContainer
import BoxDiagram.Proofs.TouchingRoutes
import Mathlib

namespace BoxDiagram

variable {α κ : Type}

/-- The request with one more edge. -/
def LayoutGraph.withEdge (g : LayoutGraph α) (e : LayoutEdge) : LayoutGraph α := { g with edges := g.edges ++ [e] }

/-! ### Pairs of children -/

namespace Placement

/-- The placement with one more edge. -/
def withEdge (p : Placement α κ) (e : LayoutEdge) : Placement α κ := { p with edges := p.edges ++ [e] }

/-- In a container with these children the edge adds nothing to the pairs that are ranked. -/
def AddsNothing (p : Placement α κ) (e : LayoutEdge) (path : List String) (children : List (Tree (LayoutNode α))) :
    Prop :=
  (p.withEdge e).projectEdges path (children.map fun t => t.value.id) =
    p.projectEdges path (children.map fun t => t.value.id)

variable {p : Placement α κ} {e : LayoutEdge} {path ids : List String}

/-- An edge that is projected to no pair, or to one that is known, adds nothing. -/
theorem projectEdges_withEdge
    (known : ∀ pair, p.projectEdge? path ids e = some pair → pair ∈ p.projectEdges path ids) :
    (p.withEdge e).projectEdges path ids = p.projectEdges path ids := by
  have grown : (p.withEdge e).edges.filterMap ((p.withEdge e).projectEdge? path ids) =
      p.edges.filterMap (p.projectEdge? path ids) ++ (p.projectEdge? path ids e).toList := by
    change (p.edges ++ [e]).filterMap (p.projectEdge? path ids) = _
    rw [List.filterMap_append]
    cases projected : p.projectEdge? path ids e <;> simp [projected]
  rw [projectEdges_eq, grown, projectEdges_eq]
  cases projected : p.projectEdge? path ids e with
  | none => simp
  | some pair =>
      have isKnown := known pair projected
      rw [projectEdges_eq, List.mem_eraseDups] at isKnown
      generalize p.edges.filterMap (p.projectEdge? path ids) = pairs at isKnown
      simp [List.eraseDups_append, List.removeAll, isKnown]

variable [Scalar α] [NumberText α] [Coordinate κ]

/-! ### Placing with one more edge -/

/-- Nodes that are placed have the ids that were asked for. -/
theorem placeForest_ids {ts : List (Tree (LayoutNode α))} {us : List (Tree (PositionedNode α))}
    (placed : p.placeForest path ts = .ok us) : us.map (fun u => u.value.id) = ts.map fun t => t.value.id := by
  have names := placedNames_of_forall₂ ((sameNames_carried p).placeForest path ts placed)
  have ids := congrArg (List.map fun t => t.value.id) names
  simpa [placedNames, requestedNames, Tree.mapForest_eq_map, Function.comp_def] using ids

omit [NumberText α] in
/-- Children between which the edge adds no pair are arranged as before. -/
theorem arrange_withEdge {children : List (Tree (PositionedNode α))}
    (same : (p.withEdge e).projectEdges path (children.map fun u => u.value.id) =
      p.projectEdges path (children.map fun u => u.value.id)) :
    (p.withEdge e).arrange path children = p.arrange path children := by
  rcases eq_or_ne children [] with rfl | notEmpty
  · rw [arrange_nil, arrange_nil]
  · have slots : (p.withEdge e).slot = p.slot := rfl
    have sizes : (p.withEdge e).flowSizes = p.flowSizes := rfl
    rw [arrange_eq _ path notEmpty, arrange_eq _ path notEmpty, same, slots, sizes]
    generalize p.projectEdges path (children.map fun u => u.value.id) = pairs
    rfl

/-- If the nodes inside a container are placed alike and the edge adds nothing here, they are arranged alike. -/
theorem placeChildren_withEdge_of {inside : List (Tree (LayoutNode α))} (here : p.AddsNothing e path inside)
    (alike : (p.withEdge e).placeForest path inside = p.placeForest path inside) :
    (p.withEdge e).placeChildren path inside = p.placeChildren path inside := by
  rw [placeChildren, placeChildren, alike]
  refine bind_congr_of_ok fun inner placed => arrange_withEdge ?_
  rw [placeForest_ids placed]
  exact here

mutual

/-- A node in which the edge adds nothing to any container is placed as before. -/
theorem placeTree_withEdge (parent : List String) :
    (t : Tree (LayoutNode α)) →
      (∀ branch u, Tree.Branch [t] branch u → u.children ≠ [] →
        p.AddsNothing e (parent ++ idsAlong branch) u.children) →
      (p.withEdge e).placeTree parent t = p.placeTree parent t
  | .node n [], _ => by
      rw [placeTree_leaf, placeTree_leaf]
  | .node n (c :: cs), nothing => by
      have isTree := List.mem_singleton_self (Tree.node n (c :: cs))
      have here : p.AddsNothing e (parent ++ [n.id]) (c :: cs) := nothing _ _ (.top isTree) (List.cons_ne_nil c cs)
      have alike := placeForest_withEdge (parent ++ [n.id]) (c :: cs) fun branch u onward compound => by
        have below := nothing _ _ (.inside isTree onward) compound
        rw [List.append_assoc]
        exact below
      rw [placeTree_compound _ parent n (List.cons_ne_nil c cs), placeTree_compound _ parent n (List.cons_ne_nil c cs),
        placeChildren_withEdge_of here alike]

theorem placeForest_withEdge (parent : List String) :
    (ts : List (Tree (LayoutNode α))) →
      (∀ branch u, Tree.Branch ts branch u → u.children ≠ [] →
        p.AddsNothing e (parent ++ idsAlong branch) u.children) →
      (p.withEdge e).placeForest parent ts = p.placeForest parent ts
  | [], _ => by
      rw [placeForest_nil, placeForest_nil]
  | t :: ts, nothing => by
      have first := placeTree_withEdge parent t fun branch u onBranch => nothing branch u (onBranch.ofHead ts)
      have rest := placeForest_withEdge parent ts fun branch u onBranch => nothing branch u (onBranch.ofTail t)
      rw [placeForest, placeForest, first, rest]

end

end Placement

/-! ### Containers -/

section Containers

variable [Scalar α] [NumberText α] [Coordinate κ] {g : LayoutGraph α} {e : LayoutEdge} {p : Placement α κ}

/-- The container at the end of a longer branch. -/
def Container.onward (c : Container g) {branch : List (Tree (LayoutNode α))} {u : Tree (LayoutNode α)}
    (isBranch : Tree.Branch c.children branch u) (compound : u.children ≠ []) : Container g where
  around := c.around ++ branch
  children := u.children
  isContainer := .inr ⟨u, (c.branch_iff isBranch.ne_nil).mpr isBranch, Tree.isCompound_iff.mpr compound, rfl⟩

/-- A container has the same content as before if the edge adds nothing in it and in the containers inside it. -/
theorem Container.placeChildren_withEdge (c : Container g)
    (nothing : ∀ c' : Container g, c.around <+: c'.around → p.AddsNothing e c'.path c'.children) :
    (p.withEdge e).placeChildren c.path c.children = p.placeChildren c.path c.children := by
  apply Placement.placeChildren_withEdge_of (nothing c (List.prefix_refl _))
  apply Placement.placeForest_withEdge
  intro branch u isBranch compound
  have below := nothing (c.onward isBranch compound) (List.prefix_append _ _)
  rw [Container.path, Container.onward, idsAlong, List.map_append] at below
  exact below

end Containers

/-! ### What a layout has inside a container -/

/-- The nodes that a layout has directly inside the node with this id; no id stands for the whole drawing. -/
def PositionedGraph.childrenIn? (g : PositionedGraph α) (id? : Option String) :
    Option (List (Tree (PositionedNode α))) :=
  match id? with
  | none => some g.children
  | some id => ((Tree.preorderForest g.children).find? fun u => u.value.id == id).map Tree.children

section Contents

variable [Scalar α] [NumberText α] [Coordinate κ]

namespace Placement

variable {p : Placement α κ}

/-- A container among nodes that are placed and moved holds what is placed inside it, moved by its padding. -/
theorem exists_placed_of_mem {parent : List String} {ts : List (Tree (LayoutNode α))} {t : Tree (LayoutNode α)}
    (mem : t ∈ ts) (compound : t.children ≠ []) {us vs : List (Tree (PositionedNode α))}
    (placed : p.placeForest parent ts = .ok us) (moved : List.Forall₂ Moved us vs) :
    ∃ content, ∃ v ∈ vs, p.placeChildren (parent ++ [t.value.id]) t.children = .ok content ∧
      v.value.id = t.value.id ∧ v.children = content.1.map (indent (t.value.padding?.getD Insets.zero)) := by
  induction ts generalizing us vs with
  | nil => exact absurd mem List.not_mem_nil
  | cons first ts ih =>
      obtain ⟨u, us, placedFirst, placedRest, rfl⟩ := placeForest_cons_eq_ok placed
      cases moved with
      | @cons _ v _ vs movedFirst movedRest =>
          rcases List.mem_cons.mp mem with rfl | later
          · obtain ⟨n, inside⟩ := t
            obtain ⟨corner, rfl⟩ := movedFirst
            rw [placeTree_compound p parent n (show inside ≠ [] from compound)] at placedFirst
            obtain ⟨content, placedInside, rfl⟩ := map_eq_ok_iff.mp placedFirst
            exact ⟨content, _, List.mem_cons_self, placedInside, rfl, rfl⟩
          · obtain ⟨content, v, isPlaced, facts⟩ := ih later placedRest movedRest
            exact ⟨content, v, List.mem_cons_of_mem _ isPlaced, facts⟩

/-- The same for a container at the end of a branch.  The induction is on the branch; moving nodes keeps what is inside
them. -/
theorem exists_placed_of_branch {parent : List String} {ts branch : List (Tree (LayoutNode α))}
    {t : Tree (LayoutNode α)} (isBranch : Tree.Branch ts branch t) (compound : t.children ≠ [])
    {us vs : List (Tree (PositionedNode α))} (placed : p.placeForest parent ts = .ok us)
    (moved : List.Forall₂ Moved us vs) :
    ∃ content, ∃ v ∈ Tree.preorderForest vs, p.placeChildren (parent ++ idsAlong branch) t.children = .ok content ∧
      v.value.id = t.value.id ∧ v.children = content.1.map (indent (t.value.padding?.getD Insets.zero)) := by
  induction isBranch generalizing parent us vs with
  | top mem =>
      obtain ⟨content, v, isPlaced, facts⟩ := exists_placed_of_mem mem compound placed moved
      exact ⟨content, v, (Tree.sublist_preorderForest vs).subset isPlaced, facts⟩
  | @inside ts outer t branch mem rest ih =>
      have around : outer.children ≠ [] := rest.forest_ne_nil
      obtain ⟨content, v, isPlaced, placedInside, -, children⟩ := exists_placed_of_mem mem around placed moved
      obtain ⟨inner, placedInner, arranged⟩ := bind_eq_ok_iff.mp placedInside
      have movedInner := moved_indented (arrange_moved arranged) (outer.value.padding?.getD Insets.zero)
      rw [← children] at movedInner
      obtain ⟨content, w, isInside, placedInside, facts⟩ := ih compound placedInner movedInner
      rw [List.append_assoc] at placedInside
      have inForest : w ∈ Tree.preorder v := by
        rw [Tree.preorder_eq_cons]
        exact List.mem_cons_of_mem v isInside
      exact ⟨content, w, Tree.preorder_subset_of_mem isPlaced inForest, placedInside, facts⟩

end Placement

variable {layering : Layering κ} {g : LayoutGraph α} {placed : PositionedGraph α}

/-- In a layout without repeated ids, a container holds what is placed inside it, moved by its padding. -/
theorem childrenIn?_of_branch (distinct : DistinctIds g.children) (laidOut : layeredLayout layering g = .ok placed)
    {branch : List (Tree (LayoutNode α))} {t : Tree (LayoutNode α)} (isBranch : Tree.Branch g.children branch t)
    (compound : t.children ≠ []) :
    ∃ content, (g.placement layering).placeChildren (idsAlong branch) t.children = .ok content ∧
      placed.childrenIn? (some t.value.id) =
        some (content.1.map (Placement.indent (t.value.padding?.getD Insets.zero))) := by
  obtain ⟨inner, nodes, placedInside, -, arranged, -⟩ := layeredLayout_eq_ok laidOut
  obtain ⟨content, v, isPlaced, contents, sameId, children⟩ :=
    Placement.exists_placed_of_branch isBranch compound placedInside (Placement.arrange_moved arranged)
  have nodup : ((Tree.preorderForest placed.children).map fun u => u.value.id).Nodup := by
    rw [layeredLayout_ids laidOut]
    exact distinct
  refine ⟨content, contents, ?_⟩
  rw [PositionedGraph.childrenIn?, ← sameId, find?_key_eq_some nodup isPlaced, Option.map_some, children]

end Contents

/-! ### Where an edge is ranked -/

section Ranked

variable {g : LayoutGraph α} {e : LayoutEdge} {p : Placement α κ}

/-- The common container of a path and another one is on the way to the end of the path. -/
theorem lowestCommonContainer_eq_take {source : List String} (notEmpty : source ≠ []) (target : List String) :
    ∃ k < source.length, lowestCommonContainer source target = (source.take k).getLast? := by
  obtain ⟨rest, split⟩ := commonPrefix_isPrefix source target
  have enough := List.length_pos_iff.mpr notEmpty
  have lengths := congrArg List.length split
  rw [List.length_append] at lengths
  rw [lowestCommonContainer]
  generalize commonPrefix source target = common at split lengths
  split
  · refine ⟨common.length - 1, by omega, ?_⟩
    rw [← split, List.take_append_of_le_length (by omega)]
  · refine ⟨common.length, by omega, ?_⟩
    rw [← split, List.take_append_of_le_length (Nat.le_refl _)]

/-- The deepest node around both ends of an edge, or the root, is a container. -/
theorem exists_common {as : List (Tree (LayoutNode α))} {a : Tree (LayoutNode α)}
    (left : Tree.Branch g.children as a) (target : List String) :
    ∃ common : Container g, common.id? = lowestCommonContainer (idsAlong as) target := by
  have notEmpty : idsAlong as ≠ [] := fun empty => left.ne_nil (List.map_eq_nil_iff.mp empty)
  obtain ⟨k, inside, isTake⟩ := lowestCommonContainer_eq_take notEmpty target
  rw [idsAlong, List.length_map] at inside
  have split : as.take k ++ as[k] :: as.drop (k + 1) = as := by
    rw [← List.drop_eq_getElem_cons inside, List.take_append_drop]
  obtain ⟨common, around⟩ := Container.exists_of_branch (split.symm ▸ left)
  refine ⟨common, ?_⟩
  rw [isTake, Container.id?, Container.path, around, idsAlong, idsAlong, List.map_take]

/-- An edge that is not ranked in a container adds nothing to it. -/
theorem addsNothing_of_not_ranked {c : Container g} (nowhere : ¬ ∃ i j, RankedIn p c e i j) :
    p.AddsNothing e c.path c.children := by
  apply Placement.projectEdges_withEdge
  intro pair projected
  exact absurd ⟨pair.1, pair.2, projectEdge?_eq_some_iff.mp projected⟩ nowhere

/-- An edge that is ranked in a container like an earlier one adds nothing to it. -/
theorem addsNothing_of_ranked {c : Container g} {i j : Nat} (ranked : RankedIn p c e i j) {e' : LayoutEdge}
    (earlier : e' ∈ p.edges) (known : RankedIn p c e' i j) : p.AddsNothing e c.path c.children := by
  apply Placement.projectEdges_withEdge
  intro pair projected
  obtain rfl : (i, j) = pair := Option.some.inj ((projectEdge?_eq_some_iff.mpr ranked).symm.trans projected)
  exact mem_projectEdges_iff.mpr ⟨e', earlier, known⟩

/-- An edge that tells a placement nothing: an end leads to no node, or the one end is in the other, or an earlier edge
is ranked with the same children in the same container. -/
inductive TellsNothing (g : LayoutGraph α) (p : Placement α κ) (e : LayoutEdge) : Prop where
  | unresolved (apart : g.joins e = false)
  | nested {s t : String} {a b : Tree (LayoutNode α)} (source : e.sources.head? = some s)
      (target : e.targets.head? = some t) (sOwner : Owner g s a) (tOwner : Owner g t b)
      (inside : a ∈ Tree.preorder b ∨ b ∈ Tree.preorder a)
  | repeated {c : Container g} {i j : Nat} {e' : LayoutEdge} (ranked : RankedIn p c e i j) (earlier : e' ∈ g.edges)
      (known : RankedIn p c e' i j)

variable [Scalar α] [NumberText α] {layering : Layering κ}

/-- An edge with an end that leads to no node is ranked nowhere. -/
theorem not_ranked_of_unresolved (apart : g.joins e = false) (c : Container g) :
    ¬ ∃ i j, RankedIn (g.placement layering) c e i j := by
  rintro ⟨i, j, -, s, t, source, target, inChild, inChild'⟩
  obtain ⟨sPath, sFound⟩ := exists_path_of_childOf? inChild
  obtain ⟨tPath, tFound⟩ := exists_path_of_childOf? inChild'
  have sFound : g.hierarchy.pathOf? s = some sPath := sFound
  have tFound : g.hierarchy.pathOf? t = some tPath := tFound
  simp [LayoutGraph.joins, source, target, sFound, tFound] at apart

/-- Such an edge adds nothing to any container. -/
theorem TellsNothing.addsNothing (distinct : DistinctIds g.children)
    (tellsNothing : TellsNothing g (g.placement layering) e) (c : Container g) :
    (g.placement layering).AddsNothing e c.path c.children := by
  cases tellsNothing with
  | unresolved apart => exact addsNothing_of_not_ranked (not_ranked_of_unresolved apart c)
  | nested source target sOwner tOwner inside =>
      obtain ⟨as, left, sFound⟩ := sOwner
      obtain ⟨bs, right, tFound⟩ := tOwner
      exact addsNothing_of_not_ranked
        (not_ranked distinct layering c source target left right sFound tFound inside)
  | @repeated c' i j e' ranked earlier known =>
      by_cases here : ∃ i j, RankedIn (g.placement layering) c e i j
      · obtain rfl := ranked_unique distinct layering here ⟨i, j, ranked⟩
        exact addsNothing_of_ranked ranked earlier known
      · exact addsNothing_of_not_ranked here

/-- There is a container with the id of the common one, and the edge is ranked in no other. -/
theorem exists_only_ranked (distinct : DistinctIds g.children) {s t : String} {sPath tPath : List String}
    (source : e.sources.head? = some s) (target : e.targets.head? = some t)
    (sFound : g.hierarchy.pathOf? s = some sPath) (tFound : g.hierarchy.pathOf? t = some tPath) :
    ∃ common : Container g, common.id? = lowestCommonContainer sPath tPath ∧
      ∀ c : Container g, c ≠ common → ¬ ∃ i j, RankedIn (g.placement layering) c e i j := by
  obtain ⟨as, a, left, rfl⟩ := exists_branch_of_pathOf? sFound
  obtain ⟨bs, b, right, rfl⟩ := exists_branch_of_pathOf? tFound
  by_cases inside : a ∈ Tree.preorder b ∨ b ∈ Tree.preorder a
  · obtain ⟨common, isCommon⟩ := exists_common left (idsAlong bs)
    exact ⟨common, isCommon, fun c _ =>
      not_ranked distinct layering c source target left right sFound tFound inside⟩
  · rw [not_or] at inside
    obtain ⟨common, isCommon, alone⟩ :=
      ranked_once distinct layering source target left right sFound tFound inside.1 inside.2
    exact ⟨common, isCommon, fun c other ranked => other ((alone c).mp ranked)⟩

end Ranked

/-! ### Main result -/

section Main

variable [Scalar α] [NumberText α] [Coordinate κ] {g : LayoutGraph α} {e : LayoutEdge} {layering : Layering κ}
  {placed placed' : PositionedGraph α}

omit [Coordinate κ] in
theorem placement_withEdge (g : LayoutGraph α) (e : LayoutEdge) (layering : Layering κ) :
    (g.withEdge e).placement layering = (g.placement layering).withEdge e := rfl

/-- A container in which and in the inside of which the edge adds nothing has the same children in both layouts. -/
theorem childrenIn?_withEdge (distinct : DistinctIds g.children) (before : layeredLayout layering g = .ok placed)
    (after : layeredLayout layering (g.withEdge e) = .ok placed') {c : Container g} (notRoot : c.around ≠ [])
    (nothing : ∀ c' : Container g, c.around <+: c'.around →
      (g.placement layering).AddsNothing e c'.path c'.children) :
    ∃ us, placed.childrenIn? c.id? = some us ∧ placed'.childrenIn? c.id? = some us := by
  rcases c.isContainer with ⟨isRoot, -⟩ | ⟨t, isBranch, isCompound, inside⟩
  · exact absurd isRoot notRoot
  · have compound := Tree.isCompound_iff.mp isCompound
    have alike := c.placeChildren_withEdge nothing
    obtain ⟨content, contents, found⟩ := childrenIn?_of_branch distinct before isBranch compound
    obtain ⟨content', contents', found'⟩ := childrenIn?_of_branch (g := g.withEdge e) distinct after isBranch compound
    rw [placement_withEdge] at contents'
    rw [Container.path, inside, contents, contents'] at alike
    obtain rfl := Except.ok.inj alike
    have id : c.id? = some t.value.id := idsAlong_getLast? isBranch
    rw [id]
    exact ⟨_, found, found'⟩

/-- If the edge adds nothing to any container, all nodes are placed as before. -/
theorem placeNodes_withEdge
    (nothing : ∀ c : Container g, (g.placement layering).AddsNothing e c.path c.children) :
    placeNodes layering (g.withEdge e) = placeNodes layering g := by
  have alike : ((g.placement layering).withEdge e).placeChildren [] g.children =
      (g.placement layering).placeChildren [] g.children :=
    Container.placeChildren_withEdge ⟨[], g.children, .inl ⟨rfl, rfl⟩⟩ fun c _ => nothing c
  rw [placeNodes_eq, placeNodes_eq, placement_withEdge, ← alike]
  rfl

omit [NumberText α] in
/-- With one more edge there is at most one more route, at the end. -/
theorem routeEdges_withEdge (g : LayoutGraph α) (e : LayoutEdge) (nodes : PositionedGraph α) (horizontal : Bool) :
    ∃ added : Option (PositionedEdge α),
      routeEdges (g.withEdge e) nodes horizontal = routeEdges g nodes horizontal ++ added.toList := by
  refine ⟨(routeEdge g.hierarchy (.ofGraph nodes) nodes horizontal e).toOption, ?_⟩
  simp only [routeEdges, routeOutcomes, LayoutGraph.withEdge, List.map_append, List.filterMap_append]
  rfl

/-- One more edge changes only what is inside the common container of its ends and inside the containers around it:
every other container has the same children in both layouts.  An edge that tells the placement nothing changes nothing
but that there may be a route for it after the others. -/
theorem layeredLayout_withEdge (distinct : DistinctIds g.children) (before : layeredLayout layering g = .ok placed)
    (after : layeredLayout layering (g.withEdge e) = .ok placed') :
    (∀ s t sPath tPath, e.sources.head? = some s → e.targets.head? = some t → g.hierarchy.pathOf? s = some sPath →
      g.hierarchy.pathOf? t = some tPath →
        ∃ common : Container g, common.id? = lowestCommonContainer sPath tPath ∧
          ∀ c : Container g, ¬ c.around <+: common.around →
            ∃ us, placed.childrenIn? c.id? = some us ∧ placed'.childrenIn? c.id? = some us) ∧
    (TellsNothing g (g.placement layering) e →
      ∃ added : Option (PositionedEdge α), placed' = { placed with edges := placed.edges ++ added.toList }) := by
  constructor
  · intro s t sPath tPath source target sFound tFound
    obtain ⟨common, isCommon, alone⟩ := exists_only_ranked distinct source target sFound tFound
    refine ⟨common, isCommon, fun c apart => ?_⟩
    apply childrenIn?_withEdge distinct before after
    · intro isRoot
      exact apart (isRoot ▸ List.nil_prefix)
    · intro c' inside
      apply addsNothing_of_not_ranked
      apply alone
      rintro rfl
      exact apart inside
  · intro tellsNothing
    obtain ⟨nodes, placedNodes, whole⟩ := bind_eq_ok_iff.mp before
    obtain ⟨nodes', placedNodes', whole'⟩ := bind_eq_ok_iff.mp after
    rw [placeNodes_withEdge (tellsNothing.addsNothing distinct), placedNodes] at placedNodes'
    obtain rfl := Except.ok.inj placedNodes'
    obtain ⟨added, routes⟩ := routeEdges_withEdge g e nodes g.direction.isHorizontal
    refine ⟨added, ?_⟩
    rw [← pure_eq_ok_iff.mp whole, ← pure_eq_ok_iff.mp whole', ← routes]
    rfl

end Main

def secondFrame : Tree (LayoutNode ℚ) := frame "G" [sizedLeaf "C" 10 10 [], sizedLeaf "D" 50 5 []]

/-- Two frames around two leaves each.  The first edge joins the frames, and the second one the leaves in the second
frame. -/
def twoFrames : LayoutGraph ℚ :=
  { id := rootId
    options := .empty
    children := [frame "F" [sizedLeaf "A" 30 20 ["A_p"], sizedLeaf "B" 10 40 []], secondFrame]
    edges := [⟨"e0", ["A_p"], ["C"], []⟩, ⟨"e1", ["C"], ["D"], []⟩] }

/-- An edge in the first frame makes the drawing wider and leaves the second frame as it is; one more edge between the
frames changes nothing. -/
theorem twoFrames_withEdge :
    DistinctIds twoFrames.children ∧
      ∃ placed inner again,
        layeredLayout inTurn twoFrames = .ok placed ∧
        layeredLayout inTurn (twoFrames.withEdge ⟨"e2", ["A"], ["B"], []⟩) = .ok inner ∧
        layeredLayout inTurn (twoFrames.withEdge ⟨"e2", ["B"], ["D"], []⟩) = .ok again ∧
        placed.width = 410 ∧ inner.width = 580 ∧
        (∃ us, placed.childrenIn? (some "G") = some us ∧ inner.childrenIn? (some "G") = some us) ∧
        ∃ added : Option (PositionedEdge ℚ), again = { placed with edges := placed.edges ++ added.toList } := by
  have distinct : DistinctIds twoFrames.children := by decide
  have width : (layeredLayout inTurn twoFrames).toOption.map PositionedGraph.width = some 410 := by cbv
  have innerWidth : (layeredLayout inTurn (twoFrames.withEdge ⟨"e2", ["A"], ["B"], []⟩)).toOption.map
      PositionedGraph.width = some 580 := by
    cbv
  have succeeds : (layeredLayout inTurn (twoFrames.withEdge ⟨"e2", ["B"], ["D"], []⟩)).isOk = true := by
    cbv
  obtain ⟨placed, placedOk, width⟩ := Option.map_eq_some_iff.mp width
  obtain ⟨inner, innerOk, innerWidth⟩ := Option.map_eq_some_iff.mp innerWidth
  obtain ⟨again, againOk⟩ := exists_eq_ok_of_isOk succeeds
  have before := eq_ok_of_toOption_eq_some placedOk
  have after := eq_ok_of_toOption_eq_some innerOk
  refine ⟨distinct, placed, inner, again, before, after, againOk, width, innerWidth, ?_, ?_⟩
  · obtain ⟨common, isCommon, others⟩ :=
      (layeredLayout_withEdge distinct before after).1 "A" "B" ["F", "A"] ["F", "B"] rfl rfl (by decide) (by decide)
    have isFrame : Tree.Branch twoFrames.children [secondFrame] secondFrame :=
      .top (List.mem_cons_of_mem _ List.mem_cons_self)
    apply others ⟨[secondFrame], secondFrame.children, .inr ⟨secondFrame, isFrame, rfl, rfl⟩⟩
    -- The common container has the id of the first frame, which no node in the second one has.
    rintro ⟨rest, begins⟩
    rcases common.isContainer with ⟨isRoot, -⟩ | ⟨u, branch, -⟩
    · rw [isRoot] at begins
      cases begins
    · have ends := idsAlong_getLast? branch
      rw [← begins] at branch
      have elsewhere : ∀ u ∈ Tree.preorder secondFrame,
          some u.value.id ≠ lowestCommonContainer ["F", "A"] ["F", "B"] := by
        decide
      exact elsewhere u branch.head.2 (ends.symm.trans isCommon)
  · apply (layeredLayout_withEdge distinct before againOk).2
    let root : Container twoFrames := ⟨[], twoFrames.children, .inl ⟨rfl, rfl⟩⟩
    have ranked : RankedIn (twoFrames.placement inTurn) root ⟨"e2", ["B"], ["D"], []⟩ 0 1 :=
      ⟨by decide, "B", "D", rfl, rfl, by decide, by decide⟩
    have known : RankedIn (twoFrames.placement inTurn) root ⟨"e0", ["A_p"], ["C"], []⟩ 0 1 :=
      ⟨by decide, "A_p", "C", rfl, rfl, by decide, by decide⟩
    exact .repeated ranked List.mem_cons_self known

end BoxDiagram
