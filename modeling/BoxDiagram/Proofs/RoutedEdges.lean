/-
Module: BoxDiagram.Proofs.RoutedEdges
Purpose: Every edge of a diagram without faults is routed.  Both ends lead to nodes of the request, a layout places all
  of them under their ids, and so the router leaves no edge out.
Main exports: RoutedBetween, routeEdge_eq_ok, LayoutGraph.joins, layeredLayout_routes,
  Diagram.endpoint_leads_to_node, RoutedFrom, Diagram.edges_routed
-/
import BoxDiagram.Proofs.Branches
import BoxDiagram.Proofs.PlacedTree
import BoxDiagram.Proofs.RequestNodes
import BoxDiagram.Proofs.ValidDiagram

namespace BoxDiagram

variable {α κ : Type}

/-! ### Routes -/

variable [Scalar α]

/-- Every node of a layout has a rectangle. -/
theorem exists_nodeBounds {g : PositionedGraph α} {id : String}
    (mem : id ∈ (Tree.preorderForest g.children).map (·.value.id)) :
    ∃ bounds, lastValue? id (Landmarks.ofGraph g).nodes = some bounds := by
  rw [← walkForest_nodes Point.origin 0, List.map_map] at mem
  obtain ⟨v, visited, rfl⟩ := List.mem_map.mp mem
  exact Option.isSome_iff_exists.mp (lastValue?_isSome_iff.mpr ⟨_, List.mem_map_of_mem visited⟩)

/-- An id whose path ends at a node of the layout can be the end of a route. -/
theorem exists_routeEnd {h : Hierarchy} {g : PositionedGraph α} {id last : String} {path : List String}
    (hasPath : h.pathOf? id = some path) (ends : path.getLast? = some last)
    (mem : last ∈ (Tree.preorderForest g.children).map (·.value.id)) :
    ∃ routeEnd, routeEnd? h (Landmarks.ofGraph g) id = some routeEnd := by
  obtain ⟨bounds, found⟩ := exists_nodeBounds mem
  have rectangle : (Landmarks.ofGraph g).bounds? path = some bounds := by
    rw [Landmarks.bounds?, ends, Option.bind_some, found]
  refine ⟨⟨id, path, bounds⟩, ?_⟩
  rw [routeEnd?, hasPath, Option.bind_eq_bind, Option.bind_some, rectangle]
  rfl

omit [Scalar α] in
/-- An end of a route has the path of its id and the rectangle that is found for this path. -/
theorem routeEnd?_eq_some {h : Hierarchy} {l : Landmarks α} {id : String} {routeEnd : RouteEnd α}
    (isEnd : routeEnd? h l id = some routeEnd) :
    routeEnd.id = id ∧ h.pathOf? id = some routeEnd.path ∧ l.bounds? routeEnd.path = some routeEnd.bounds := by
  obtain ⟨path, hasPath, isEnd⟩ := Option.bind_eq_some_iff.mp isEnd
  obtain ⟨bounds, hasBounds, isEnd⟩ := Option.bind_eq_some_iff.mp isEnd
  cases isEnd
  exact ⟨rfl, hasPath, hasBounds⟩

/-- The rectangle of a path is that of a node with the last id of the path. -/
theorem exists_visit_of_bounds {g : PositionedGraph α} {path : List String} {bounds : Bounds α}
    (hasBounds : (Landmarks.ofGraph g).bounds? path = some bounds) :
    ∃ v ∈ g.walk, path.getLast? = some v.node.value.id ∧ bounds = .ofTopLeft v.origin v.node.value.size := by
  obtain ⟨last, ends, found⟩ := Option.bind_eq_some_iff.mp hasBounds
  obtain ⟨v, visited, same⟩ := List.mem_map.mp (mem_of_lastValue?_eq_some found)
  obtain ⟨rfl, rfl⟩ := Prod.mk.inj same
  exact ⟨v, visited, ends, rfl⟩

/-- The section between two points, relative to `origin`. -/
def sectionBetween (start stop origin : Point α) (horizontal : Bool) : EdgeSection α :=
  ⟨start - origin, stop - origin, (orthogonalBends start stop horizontal).map (· - origin)⟩

/-- The edge `r` is a route of `e` between these ends. -/
structure RoutedBetween (h : Hierarchy) (l : Landmarks α) (g : PositionedGraph α) (horizontal : Bool) (e : LayoutEdge)
    (s t : RouteEnd α) (r : PositionedEdge α) : Prop where
  id : r.id = e.id
  labels : r.labels = e.labels
  container : r.container = some ((lowestCommonContainer s.path t.path).getD rootId)
  sections : r.sections = [sectionBetween (attachment h l s t horizontal) (attachment h l t s horizontal)
    (g.absoluteOrigin (lowestCommonContainer s.path t.path)) horizontal]

/-- An edge that is routed has two ends, and it is a route between them. -/
theorem routeEdge_eq_ok {h : Hierarchy} {l : Landmarks α} {g : PositionedGraph α} {horizontal : Bool} {e : LayoutEdge}
    {r : PositionedEdge α} (routed : routeEdge h l g horizontal e = .ok r) :
    ∃ source target s t, e.sources.head? = some source ∧ e.targets.head? = some target ∧
      routeEnd? h l source = some s ∧ routeEnd? h l target = some t ∧ RoutedBetween h l g horizontal e s t r := by
  rw [routeEdge] at routed
  split at routed
  · rename_i source target hasSource hasTarget
    split at routed
    · rename_i s t start stop
      cases routed
      exact ⟨source, target, s, t, hasSource, hasTarget, start, stop, rfl, rfl, rfl, rfl⟩
    · cases routed
  · cases routed

/-- Routes depend on the nodes of a layout alone. -/
theorem routeEdges_of_children_eq {request : LayoutGraph α} {g g' : PositionedGraph α} (same : g.children = g'.children)
    (horizontal : Bool) : routeEdges request g horizontal = routeEdges request g' horizontal := by
  have landmarks : Landmarks.ofGraph g = Landmarks.ofGraph g' := by
    rw [Landmarks.ofGraph, Landmarks.ofGraph, PositionedGraph.walk, PositionedGraph.walk, same]
  have origins : g.absoluteOrigin = g'.absoluteOrigin := by
    funext container
    cases container with
    | none => rfl
    | some id => rw [PositionedGraph.absoluteOrigin, PositionedGraph.absoluteOrigin, same]
  have routes : routeEdge (.ofForest request.children) (Landmarks.ofGraph g') g horizontal =
      routeEdge (.ofForest request.children) (Landmarks.ofGraph g') g' horizontal := by
    funext e
    rw [routeEdge, routeEdge, origins]
  rw [routeEdges, routeEdges, routeOutcomes, routeOutcomes, landmarks, routes]

/-- The successes of a step over a list are those of the elements for which it succeeds, in order. -/
theorem forall₂_filter_successes {β γ ε : Type} (f : β → Except ε γ) (xs : List β) :
    List.Forall₂ (fun x r => f x = .ok r) (xs.filter fun x => (f x).isOk)
      ((xs.map f).filterMap Except.toOption) := by
  induction xs with
  | nil => exact .nil
  | cons x xs ih =>
      cases outcome : f x with
      | error fault =>
          have fails : ¬ (f x).isOk = true := by simp [outcome, Except.isOk, Except.toBool]
          have nothing : Except.toOption (f x) = none := by rw [outcome]; rfl
          rw [List.map_cons, List.filter_cons, if_neg fails, List.filterMap_cons_none nothing]
          exact ih
      | ok r =>
          have succeeds : (f x).isOk = true := by simp [outcome, Except.isOk, Except.toBool]
          have first : Except.toOption (f x) = some r := by rw [outcome]; rfl
          rw [List.map_cons, List.filter_cons, if_pos succeeds, List.filterMap_cons_some first]
          exact .cons outcome ih

variable [NumberText α] [Coordinate κ]

/-! ### Edges with a route -/

/-- Both ends of an edge lead to nodes of the request. -/
def LayoutGraph.joins (g : LayoutGraph α) (e : LayoutEdge) : Bool :=
  (e.sources.head?.bind g.hierarchy.pathOf?).isSome && (e.targets.head?.bind g.hierarchy.pathOf?).isSome

section Joined

variable {layering : Layering κ} {g : LayoutGraph α} {placed : PositionedGraph α}

/-- An end with a path can be the end of a route. -/
theorem exists_routeEnd_of_path (laidOut : layeredLayout layering g = .ok placed) {endpoint : String}
    {path : List String} (hasPath : g.hierarchy.pathOf? endpoint = some path) :
    ∃ s, routeEnd? g.hierarchy (Landmarks.ofGraph placed) endpoint = some s := by
  obtain ⟨branch, a, isBranch, rfl⟩ := exists_branch_of_pathOf? hasPath
  have ends := idsAlong_getLast? isBranch
  refine exists_routeEnd hasPath ends ?_
  rw [layeredLayout_ids laidOut]
  exact mem_ids_of_mem_path hasPath (List.mem_of_getLast? ends)

/-- The edges that are routed are those that join nodes of the request. -/
theorem routeEdge_isOk_eq (laidOut : layeredLayout layering g = .ok placed) (horizontal : Bool) (e : LayoutEdge) :
    (routeEdge g.hierarchy (Landmarks.ofGraph placed) placed horizontal e).isOk = g.joins e := by
  rw [Bool.eq_iff_iff, LayoutGraph.joins, Bool.and_eq_true, Option.isSome_iff_exists, Option.isSome_iff_exists]
  constructor
  · intro succeeds
    obtain ⟨r, routed⟩ := exists_eq_ok_of_isOk succeeds
    obtain ⟨source, target, s, t, hasSource, hasTarget, start, stop, -⟩ := routeEdge_eq_ok routed
    obtain ⟨-, sPath, -⟩ := routeEnd?_eq_some start
    obtain ⟨-, tPath, -⟩ := routeEnd?_eq_some stop
    exact ⟨⟨s.path, Option.bind_eq_some_iff.mpr ⟨source, hasSource, sPath⟩⟩,
      ⟨t.path, Option.bind_eq_some_iff.mpr ⟨target, hasTarget, tPath⟩⟩⟩
  · rintro ⟨⟨sPath, hasSource⟩, tPath, hasTarget⟩
    obtain ⟨source, hasSource, sPath⟩ := Option.bind_eq_some_iff.mp hasSource
    obtain ⟨target, hasTarget, tPath⟩ := Option.bind_eq_some_iff.mp hasTarget
    obtain ⟨s, start⟩ := exists_routeEnd_of_path laidOut sPath
    obtain ⟨t, stop⟩ := exists_routeEnd_of_path laidOut tPath
    rw [routeEdge, hasSource, hasTarget]
    dsimp only
    rw [start, stop]
    rfl

/-- A layout has a routed edge for every edge that joins nodes of the request, in order. -/
theorem layeredLayout_routes (laidOut : layeredLayout layering g = .ok placed) :
    List.Forall₂ (fun e r => routeEdge g.hierarchy (Landmarks.ofGraph placed) placed g.direction.isHorizontal e = .ok r)
      (g.edges.filter g.joins) placed.edges := by
  obtain ⟨-, nodes, -, -, -, sameNodes, routes⟩ := layeredLayout_eq_ok laidOut
  rw [routes, routeEdges_of_children_eq sameNodes, routeEdges, routeOutcomes,
    ← List.filter_congr fun e _ => routeEdge_isOk_eq laidOut g.direction.isHorizontal e]
  exact forall₂_filter_successes _ g.edges

end Joined

/-! ### Ends of edges -/

namespace Diagram

variable {d : Diagram α} {config : LayoutConfig α} {e : EdgeEndpoint}

variable (config) in
/-- The id of an end of an edge leads to some node of the request: to the owner of a port with this id, or else to the
box the end names. -/
theorem endpoint_leads_to_node (valid : d.validate = []) (mem : e ∈ d.endpoints) :
    ∃ path, (layoutRequest d config).hierarchy.pathOf? e.nodeId.text = some path := by
  obtain ⟨t, inBoxes, sameId, hasPort⟩ := exists_box_of_valid valid mem
  have isNode : ((lastValue? e.nodeId.text (layoutRequest d config).hierarchy.owners).getD e.nodeId.text) ∈
      (Tree.preorderForest (layoutRequest d config).children).map (·.value.id) := by
    cases owned : lastValue? e.nodeId.text (layoutRequest d config).hierarchy.owners with
    | some owner =>
        obtain ⟨u, isNode, -, rfl⟩ := Hierarchy.mem_portOwners_iff.mp (mem_of_lastValue?_eq_some owned)
        exact List.mem_map_of_mem isNode
    | none =>
        -- An end with a port would have an owner, since its box has the port.
        have plain : e.port = none := by
          cases named : e.port with
          | none => rfl
          | some portId =>
              obtain ⟨p, found⟩ := hasPort portId named
              have itsId : p.id = portId := by simpa using List.find?_some found
              have entry : (e.nodeId.text, t.value.id.text) ∈ boxPortIds t := by
                refine mem_boxPortIds_iff.mpr ⟨⟨p, List.mem_of_find?_eq_some found, ?_⟩, rfl⟩
                rw [EdgeEndpoint.nodeId_of_port named, sameId, itsId]
              have unowned := lastValue?_eq_none_iff.mp owned
              rw [LayoutGraph.hierarchy, Hierarchy.ofForest, layoutRequest_portOwners] at unowned
              exact absurd rfl (unowned _ (List.mem_flatMap.mpr ⟨t, inBoxes, entry⟩))
        rw [Option.getD_none, layoutRequest_ids, EdgeEndpoint.nodeId_of_no_port plain, ← sameId]
        rw [allBoxes, Tree.visit_eq_preorderForest] at inBoxes
        exact List.mem_map_of_mem inBoxes
  exact Hierarchy.exists_lastValue?_paths isNode

end Diagram

/-! ### Main result -/

/-- A routed edge comes from the edge `e` at position `i`: it has the id of the position, one section and the label of
the edge. -/
structure RoutedFrom (e : Edge) (i : Nat) (r : PositionedEdge α) : Prop where
  id : r.id = "e" ++ toString i
  sections : r.sections.length = 1
  labels : r.labels = e.label.toList

/-- A layout of a diagram without faults has one routed edge for every edge, in the order of the edges. -/
theorem Diagram.edges_routed {d : Diagram α} {config : LayoutConfig α} {layering : Layering κ}
    {placed : PositionedGraph α} (valid : d.validate = [])
    (laidOut : layeredLayout layering (layoutRequest d config) = .ok placed) :
    List.Forall₂ (fun (e, i) r => RoutedFrom e i r) d.edges.zipIdx placed.edges := by
  have joined : (layoutRequest d config).edges.filter (layoutRequest d config).joins = (layoutRequest d config).edges := by
    refine List.filter_eq_self.mpr fun request mem => ?_
    obtain ⟨⟨e, i⟩, numbered, rfl⟩ := List.mem_map.mp mem
    have isEdge : e ∈ d.edges := List.mem_of_getElem? (List.mem_zipIdx_iff_getElem?.mp numbered)
    obtain ⟨_, starts⟩ := Diagram.endpoint_leads_to_node config valid (Diagram.mem_endpoints_source isEdge)
    obtain ⟨_, stops⟩ := Diagram.endpoint_leads_to_node config valid (Diagram.mem_endpoints_target isEdge)
    simp [LayoutGraph.joins, edgeRequest, starts, stops]
  have routes := layeredLayout_routes laidOut
  have edges : (layoutRequest d config).edges = d.edges.zipIdx.map fun (e, i) => edgeRequest i e := rfl
  rw [joined, edges, List.forall₂_map_left_iff] at routes
  refine routes.imp ?_
  rintro ⟨e, i⟩ r routed
  obtain ⟨-, -, s, t, -, -, -, -, between⟩ := routeEdge_eq_ok routed
  have one : r.sections.length = 1 := by rw [between.sections, List.length_singleton]
  exact ⟨between.id, one, between.labels⟩

end BoxDiagram
