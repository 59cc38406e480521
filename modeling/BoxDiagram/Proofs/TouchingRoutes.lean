/-
Module: BoxDiagram.Proofs.TouchingRoutes
Purpose: Routes read with exact numbers and seen in the drawing.  A route starts and stops in the middle of a port or of
  the side of a node that faces the other end, and in between it runs along the flow, across it and along it again.
Main exports: FacingSide, OrthogonalBends, Touches, NamedContainer, Route, routes_touch, innerRoot_routes
-/
import BoxDiagram.Proofs.Branches
import BoxDiagram.Proofs.ExactArithmetic
import BoxDiagram.Proofs.RoutedEdges

namespace BoxDiagram

/-! ### Along and across the flow -/

/-- The coordinate of a point along a flow that is horizontal or not. -/
def Point.along (p : Point ℚ) (horizontal : Bool) : ℚ := if horizontal then p.x else p.y

/-- The coordinate of a point across the flow. -/
def Point.across (p : Point ℚ) (horizontal : Bool) : ℚ := if horizontal then p.y else p.x

/-- The point halfway between the corners of a rectangle. -/
def Bounds.middle (b : Bounds ℚ) : Point ℚ := ⟨(b.minX + b.maxX) / 2, (b.minY + b.maxY) / 2⟩

theorem Bounds.center_eq (b : Bounds ℚ) : b.center = b.middle := by
  rw [center, middle, width, height]
  congr 1
  · norm_num
    ring
  · norm_num
    ring

/-- The middle of the side of a rectangle that faces another one: the far side, unless the middle of the other one lies
before its own along the flow. -/
structure FacingSide (horizontal : Bool) (own other : Bounds ℚ) (p : Point ℚ) : Prop where
  across : p.across horizontal = own.middle.across horizontal
  far : own.middle.along horizontal ≤ other.middle.along horizontal →
    p.along horizontal = if horizontal then own.maxX else own.maxY
  near : other.middle.along horizontal < own.middle.along horizontal →
    p.along horizontal = if horizontal then own.minX else own.minY

/-- Along the flow, an anchor is at the far side, unless the point it faces lies before the middle. -/
theorem boundaryAnchor_along (own : Bounds ℚ) (toward : Point ℚ) (horizontal : Bool) :
    (boundaryAnchor own toward horizontal).along horizontal =
      if own.middle.along horizontal ≤ toward.along horizontal then (if horizontal then own.maxX else own.maxY)
      else if horizontal then own.minX else own.minY := by
  cases horizontal with
  | true => simp [boundaryAnchor, Bounds.center_eq, Point.along]
  | false => simp [boundaryAnchor, Bounds.center_eq, Point.along]

theorem boundaryAnchor_across (own : Bounds ℚ) (toward : Point ℚ) (horizontal : Bool) :
    (boundaryAnchor own toward horizontal).across horizontal = own.middle.across horizontal := by
  cases horizontal with
  | true => simp [boundaryAnchor, Bounds.center_eq, Point.across]
  | false => simp [boundaryAnchor, Bounds.center_eq, Point.across]

theorem boundaryAnchor_facing (horizontal : Bool) (own other : Bounds ℚ) :
    FacingSide horizontal own other (boundaryAnchor own other.center horizontal) := by
  rw [Bounds.center_eq]
  constructor
  · exact boundaryAnchor_across own other.middle horizontal
  · intro before
    rw [boundaryAnchor_along, if_pos before]
  · intro behind
    rw [boundaryAnchor_along, if_neg (not_le.mpr behind)]

/-- The bends of a route: none, if the ends are less than a half apart across the flow, and else two that are halfway
along the flow, the first one level with the start and the second one with the end. -/
inductive OrthogonalBends (horizontal : Bool) (start stop : Point ℚ) : List (Point ℚ) → Prop where
  | straight (aligned : |start.across horizontal - stop.across horizontal| < 1 / 2) :
      OrthogonalBends horizontal start stop []
  | stepped {first second : Point ℚ} (apart : 1 / 2 ≤ |start.across horizontal - stop.across horizontal|)
      (outwards : first.across horizontal = start.across horizontal)
      (inwards : second.across horizontal = stop.across horizontal)
      (halfway : first.along horizontal = (start.along horizontal + stop.along horizontal) / 2)
      (sideways : second.along horizontal = first.along horizontal) :
      OrthogonalBends horizontal start stop [first, second]

theorem orthogonalBends_spec (horizontal : Bool) (start stop : Point ℚ) :
    OrthogonalBends horizontal start stop (orthogonalBends start stop horizontal) := by
  have tolerance : (alignedTolerance : ℚ) = 1 / 2 := by
    norm_num [alignedTolerance]
  have half : ∀ x : ℚ, x / 2.0 = x / 2 := by
    intro x
    norm_num
  cases horizontal with
  | true =>
      rw [orthogonalBends, if_pos rfl, Scalar.magnitude_eq_abs, tolerance]
      split
      · rename_i aligned
        exact .straight aligned
      · rename_i apart
        exact .stepped (not_lt.mp apart) rfl rfl (half _) rfl
  | false =>
      rw [orthogonalBends, if_neg Bool.false_ne_true, Scalar.magnitude_eq_abs, tolerance]
      split
      · rename_i aligned
        exact .straight aligned
      · rename_i apart
        exact .stepped (not_lt.mp apart) rfl rfl (half _) rfl

/-! ### Points relative to a container -/

theorem Point.sub_add_origin (p origin : Point ℚ) : p - origin + origin = p := by
  have x : (p - origin + origin).x = p.x := sub_add_cancel p.x origin.x
  have y : (p - origin + origin).y = p.y := sub_add_cancel p.y origin.y
  cases p
  exact congrArg₂ Point.mk x y

/-- Seen from where it is relative to, a section has the points it was made for. -/
theorem sectionBetween_points (start stop origin : Point ℚ) (horizontal : Bool) :
    (sectionBetween start stop origin horizontal).points origin =
      start :: orthogonalBends start stop horizontal ++ [stop] := by
  simp [sectionBetween, EdgeSection.points, Point.sub_add_origin, Function.comp_def]

/-- In the drawing, a route leads from one of its ends to the other. -/
theorem RoutedBetween.drawn {h : Hierarchy} {l : Landmarks ℚ} {placed : PositionedGraph ℚ} {horizontal : Bool}
    {e : LayoutEdge} {s t : RouteEnd ℚ} {r : PositionedEdge ℚ} (between : RoutedBetween h l placed horizontal e s t r) :
    r.sections.map (fun s => s.points (placed.absoluteOrigin r.container)) =
      [attachment h l s t horizontal ::
        orthogonalBends (attachment h l s t horizontal) (attachment h l t s horizontal) horizontal ++
          [attachment h l t s horizontal]] := by
  rw [between.sections, between.container, PositionedGraph.absoluteOrigin_getD, List.map_singleton,
    sectionBetween_points]

/-! ### Ends of routes -/

/-- No two ports of a forest share an id. -/
def DistinctPorts {α : Type} (forest : List (Tree (LayoutNode α))) : Prop :=
  ((Tree.preorderForest forest).flatMap fun u => u.value.ports.map LayoutPort.id).Nodup

instance {α : Type} {forest : List (Tree (LayoutNode α))} : Decidable (DistinctPorts forest) :=
  inferInstanceAs (Decidable (List.Nodup _))

/-- The rectangle of a visited node in the drawing. -/
def Visit.rectangle (v : Visit ℚ) : Bounds ℚ := .ofTopLeft v.origin v.node.value.size

/-- An end of an edge is the id of a port. -/
def NamesPort (g : LayoutGraph ℚ) (endpoint : String) : Prop :=
  ∃ u ∈ Tree.preorderForest g.children, ∃ q ∈ u.value.ports, q.id = endpoint

/-- A visit to the node that an end of an edge belongs to. -/
structure VisitsOwner (g : LayoutGraph ℚ) (placed : PositionedGraph ℚ) (endpoint : String) (v : Visit ℚ) : Prop where
  visited : v ∈ placed.walk
  owner : ∃ a, Owner g endpoint a ∧ v.node.value.id = a.value.id

/-- Where an edge touches one of its ends: in the middle of the port, if the end names one, and else in the middle of the
side of the node that faces the node at the other end. -/
structure Touches (g : LayoutGraph ℚ) (endpoint : String) (own other : Visit ℚ) (p : Point ℚ) : Prop where
  port : NamesPort g endpoint → ∃ q ∈ own.node.value.ports, q.id = endpoint ∧ p = own.origin + q.center
  side : ¬ NamesPort g endpoint → FacingSide g.direction.isHorizontal own.rectangle other.rectangle p

section Ends

variable {κ : Type} [Coordinate κ] {layering : Layering κ} {g : LayoutGraph ℚ} {placed : PositionedGraph ℚ}
  {endpoint : String} {s t : RouteEnd ℚ} {v w : Visit ℚ}

/-- The rectangle of an end of a route is that of the node that the end belongs to. -/
theorem exists_visitsOwner (isEnd : routeEnd? g.hierarchy (Landmarks.ofGraph placed) endpoint = some s) :
    ∃ v, VisitsOwner g placed endpoint v ∧ s.bounds = v.rectangle := by
  obtain ⟨-, hasPath, hasBounds⟩ := routeEnd?_eq_some isEnd
  obtain ⟨v, visited, ends, rectangle⟩ := exists_visit_of_bounds hasBounds
  obtain ⟨branch, a, isBranch, path⟩ := exists_branch_of_pathOf? hasPath
  rw [path] at hasPath ends
  rw [idsAlong_getLast? isBranch] at ends
  exact ⟨v, ⟨visited, a, ⟨branch, isBranch, hasPath⟩, (Option.some.inj ends).symm⟩, rectangle⟩

/-- The keys in the table of ports are the ids of the placed ports. -/
theorem landmarks_ports_keys (placed : PositionedGraph ℚ) :
    (Landmarks.ofGraph placed).ports.map (·.1) =
      (Tree.preorderForest placed.children).flatMap fun u => u.value.ports.map PositionedPort.id := by
  rw [← walkForest_nodes Point.origin 0, Landmarks.ofGraph, List.map_flatMap, List.flatMap_map]
  simp [PositionedGraph.walk, Function.comp_def]

/-- The table of ports has the middle of every port of a visited node. -/
theorem lastValue?_landmarks_ports (laidOut : layeredLayout layering g = .ok placed)
    (distinctPorts : DistinctPorts g.children) (visited : v ∈ placed.walk) {q : PositionedPort ℚ}
    (hasPort : q ∈ v.node.value.ports) :
    lastValue? q.id (Landmarks.ofGraph placed).ports = some (v.origin + q.center) := by
  have keys : ((Landmarks.ofGraph placed).ports.map (·.1)).Nodup := by
    rw [landmarks_ports_keys, layeredLayout_portIds laidOut]
    exact distinctPorts
  refine lastValue?_eq_some_of_nodup keys (List.mem_flatMap.mpr ⟨v, visited, ?_⟩)
  exact List.mem_map_of_mem hasPort

/-- The node that the id of a port belongs to has this port in the layout too. -/
theorem exists_port_of_visitsOwner (laidOut : layeredLayout layering g = .ok placed)
    (distinct : DistinctIds g.children) (visits : VisitsOwner g placed endpoint v) (names : NamesPort g endpoint) :
    ∃ q ∈ v.node.value.ports, q.id = endpoint := by
  obtain ⟨visited, a, owner, sameId⟩ := visits
  obtain ⟨p, isPort, portId⟩ := owner.port_mem distinct (Hierarchy.isPort_iff.mpr names)
  have isNode : v.node ∈ Tree.preorderForest placed.children := by
    rw [← walkForest_nodes Point.origin 0]
    exact List.mem_map_of_mem visited
  obtain ⟨u, isRequested, sameNames⟩ := exists_sameNames laidOut isNode
  have sameNode : u = a := by
    obtain ⟨branch, isBranch, -⟩ := owner
    refine distinct.eq_of_id_eq isRequested isBranch.mem_preorderForest ?_
    rw [← sameId, ← LayoutNode.names_id, sameNames, PositionedNode.names_id]
  have sameIds : v.node.value.ports.map PositionedPort.id = a.value.ports.map LayoutPort.id := by
    rw [← PositionedNode.names_ports, ← sameNames, sameNode, LayoutNode.names_ports]
  have hasId : endpoint ∈ v.node.value.ports.map PositionedPort.id := by
    rw [sameIds, ← portId]
    exact List.mem_map_of_mem isPort
  exact List.mem_map.mp hasId

/-- The router lets an edge touch its ends. -/
theorem attachment_touches (laidOut : layeredLayout layering g = .ok placed) (distinct : DistinctIds g.children)
    (distinctPorts : DistinctPorts g.children) (visits : VisitsOwner g placed endpoint v) (sameId : s.id = endpoint)
    (here : s.bounds = v.rectangle) (there : t.bounds = w.rectangle) :
    Touches g endpoint v w (attachment g.hierarchy (Landmarks.ofGraph placed) s t g.direction.isHorizontal) := by
  subst sameId
  constructor
  · intro names
    obtain ⟨q, hasPort, portId⟩ := exists_port_of_visitsOwner laidOut distinct visits names
    refine ⟨q, hasPort, portId, ?_⟩
    have isPort : g.hierarchy.isPort s.id = true := Hierarchy.isPort_iff.mpr names
    have found := lastValue?_landmarks_ports laidOut distinctPorts visits.visited hasPort
    rw [attachment, if_pos isPort, ← portId, found]
  · intro namesNone
    have notPort : ¬ g.hierarchy.isPort s.id = true := fun isPort => namesNone (Hierarchy.isPort_iff.mp isPort)
    rw [attachment, if_neg notPort, here, there]
    exact boundaryAnchor_facing _ _ _

end Ends

/-! ### Containers of routes -/

/-- The place that a container names: the drawing, by the id of the root even if a node has this id too, or else the place
of the node with its id. -/
inductive NamedContainer (placed : PositionedGraph ℚ) (container : Option String) : Prop where
  | root (named : container = some rootId) (place : placed.absoluteOrigin container = Point.origin) :
      NamedContainer placed container
  | node (v : Visit ℚ) (visited : v ∈ placed.walk) (notRoot : v.node.value.id ≠ rootId)
      (named : container = some v.node.value.id) (place : placed.absoluteOrigin container = v.origin) :
      NamedContainer placed container

theorem commonPrefix_isPrefix (as bs : List String) : commonPrefix as bs <+: as := by
  induction as generalizing bs with
  | nil =>
      cases bs with
      | nil => exact List.nil_prefix
      | cons b bs => exact List.nil_prefix
  | cons a as ih =>
      cases bs with
      | nil => exact List.nil_prefix
      | cons b bs =>
          rw [commonPrefix]
          split
          · exact List.cons_prefix_cons.mpr ⟨rfl, ih bs⟩
          · exact List.nil_prefix

/-- The common container of two paths is on the first one. -/
theorem mem_of_lowestCommonContainer {source target : List String} {id : String}
    (common : lowestCommonContainer source target = some id) : id ∈ source := by
  have inPrefix := List.mem_of_mem_take (List.mem_of_getLast? common)
  exact (commonPrefix_isPrefix source target).subset inPrefix

/-- The common container of two ends is named. -/
theorem namedContainer_of_paths {κ : Type} [Coordinate κ] {layering : Layering κ} {g : LayoutGraph ℚ}
    {placed : PositionedGraph ℚ} (laidOut : layeredLayout layering g = .ok placed) {endpoint : String}
    {source target : List String} (hasPath : g.hierarchy.pathOf? endpoint = some source) :
    NamedContainer placed (some ((lowestCommonContainer source target).getD rootId)) := by
  by_cases isRoot : (lowestCommonContainer source target).getD rootId = rootId
  · rw [isRoot]
    refine .root rfl ?_
    rw [PositionedGraph.absoluteOrigin, if_pos rfl]
  · cases common : lowestCommonContainer source target with
    | none =>
        rw [common] at isRoot
        exact absurd rfl isRoot
    | some id =>
        rw [common, Option.getD_some] at isRoot
        have isNode := mem_ids_of_mem_path hasPath (mem_of_lowestCommonContainer common)
        rw [← layeredLayout_ids laidOut] at isNode
        obtain ⟨v, visited, rfl, place⟩ := PositionedGraph.exists_absoluteOrigin isRoot isNode
        exact .node v visited isRoot rfl place

/-! ### Main result -/

/-- How a routed edge runs in the drawing. -/
structure Route (g : LayoutGraph ℚ) (placed : PositionedGraph ℚ) (e : LayoutEdge) (r : PositionedEdge ℚ) where
  source : String
  target : String
  sourceNode : Visit ℚ
  targetNode : Visit ℚ
  start : Point ℚ
  stop : Point ℚ
  bends : List (Point ℚ)
  sameId : r.id = e.id
  hasSource : e.sources.head? = some source
  hasTarget : e.targets.head? = some target
  ownsSource : VisitsOwner g placed source sourceNode
  ownsTarget : VisitsOwner g placed target targetNode
  /-- The one line of the edge, moved to where its container is. -/
  drawn : r.sections.map (fun s => s.points (placed.absoluteOrigin r.container)) = [start :: bends ++ [stop]]
  starts : Touches g source sourceNode targetNode start
  stops : Touches g target targetNode sourceNode stop
  orthogonal : OrthogonalBends g.direction.isHorizontal start stop bends
  /-- The container is the node around both ends, or else the drawing. -/
  common : ∃ sPath tPath, g.hierarchy.pathOf? source = some sPath ∧ g.hierarchy.pathOf? target = some tPath ∧
    r.container = some ((lowestCommonContainer sPath tPath).getD rootId)
  named : NamedContainer placed r.container

/-- There is a routed edge for every edge that joins nodes of the request, in order.  When node ids and port ids are
distinct, it starts at its source and stops at its target: in the middle of the port, or of the side that faces the other
end.  In between it is straight or has two bends halfway. -/
theorem routes_touch {κ : Type} [Coordinate κ] {layering : Layering κ} {g : LayoutGraph ℚ} {placed : PositionedGraph ℚ}
    (distinct : DistinctIds g.children) (distinctPorts : DistinctPorts g.children)
    (laidOut : layeredLayout layering g = .ok placed) :
    List.Forall₂ (fun e r => Nonempty (Route g placed e r)) (g.edges.filter g.joins) placed.edges := by
  refine (layeredLayout_routes laidOut).imp fun e r routed => ?_
  obtain ⟨source, target, s, t, hasSource, hasTarget, start, stop, between⟩ := routeEdge_eq_ok routed
  obtain ⟨sameSource, sPath, -⟩ := routeEnd?_eq_some start
  obtain ⟨sameTarget, tPath, -⟩ := routeEnd?_eq_some stop
  obtain ⟨v, ownsSource, vBounds⟩ := exists_visitsOwner start
  obtain ⟨w, ownsTarget, wBounds⟩ := exists_visitsOwner stop
  have named : NamedContainer placed r.container := by
    rw [between.container]
    exact namedContainer_of_paths laidOut sPath
  exact ⟨{
    source, target, sourceNode := v, targetNode := w, start := _, stop := _, bends := _
    sameId := between.id, hasSource, hasTarget, ownsSource, ownsTarget, named
    drawn := between.drawn
    starts := attachment_touches laidOut distinct distinctPorts ownsSource sameSource vBounds wBounds
    stops := attachment_touches laidOut distinct distinctPorts ownsTarget sameTarget wBounds vBounds
    orthogonal := orthogonalBends_spec _ _ _
    common := ⟨s.path, t.path, sPath, tPath, between.container⟩ }⟩

/-- A layering for the ends of one edge: the child 0 before the child 1. -/
def inTurn : Layering ℚ := fun _ => .ok [[⟨0, 0, 0⟩, ⟨1, 0, 1⟩]]

/-- A leaf of this size with a port on the right for every id. -/
def sizedLeaf (id : String) (width height : ℚ) (ports : List String) : Tree (LayoutNode ℚ) :=
  .node ⟨id, [], ports.map fun port => ⟨port, .east, "", 2, 2, .empty⟩, some width, some height, .empty⟩ []

/-- A node without a size of its own. -/
def frame (id : String) (inside : List (Tree (LayoutNode ℚ))) : Tree (LayoutNode ℚ) :=
  .node ⟨id, [], [], none, none, .empty⟩ inside

/-- A frame with the id of the root, around a leaf with a port and another frame. -/
def innerRoot : LayoutGraph ℚ :=
  { id := rootId
    options := .empty
    children := [
      frame "root" [sizedLeaf "A" 30 20 ["A_p"], frame "F" [sizedLeaf "B" 10 40 [], sizedLeaf "C" 10 10 []]],
      sizedLeaf "D" 50 5 []]
    edges := [⟨"e0", ["A_p"], ["B"], []⟩, ⟨"e1", ["B"], ["C"], []⟩, ⟨"e2", ["C"], ["D"], []⟩] }

/-- All edges are routed.  The first one runs in the frame with the id of the root, the second one in the other frame, and
the third one between the frame and the leaf beside it. -/
theorem innerRoot_routes :
    DistinctIds innerRoot.children ∧ DistinctPorts innerRoot.children ∧
      ∃ placed, layeredLayout inTurn innerRoot = .ok placed ∧
        placed.edges.map PositionedEdge.container = [some "root", some "F", some "root"] ∧
        List.Forall₂ (fun e r => Nonempty (Route innerRoot placed e r)) innerRoot.edges placed.edges := by
  have distinct : DistinctIds innerRoot.children := by decide
  have distinctPorts : DistinctPorts innerRoot.children := by decide
  have containers : ((layeredLayout inTurn innerRoot).toOption.map fun placed =>
      placed.edges.map PositionedEdge.container) = some [some "root", some "F", some "root"] := by
    decide +kernel
  obtain ⟨placed, succeeds, containers⟩ := Option.map_eq_some_iff.mp containers
  have laidOut := eq_ok_of_toOption_eq_some succeeds
  have joined : innerRoot.edges.filter innerRoot.joins = innerRoot.edges := by decide
  have routes := routes_touch distinct distinctPorts laidOut
  rw [joined] at routes
  exact ⟨distinct, distinctPorts, placed, laidOut, containers, routes⟩

end BoxDiagram
