/-
Module: BoxDiagram.Proofs.MirroredLayout
Purpose: Layouts in opposite directions.  With exact arithmetic they are mirror images: both fail with one fault, or the
  same nodes have the same sizes and ports, and the children of every container are turned round within the content of
  the container.
Main exports: LayoutGraph.headed, SameOutcome, MirrorImage, MirroredTree, MirroredLayouts, layeredLayout_mirrored
-/
import BoxDiagram.Proofs.NestedLayout
import BoxDiagram.Proofs.RequestOptions
import Mathlib.Tactic.Ring

namespace BoxDiagram

/-! ### Two runs -/

/-- Two steps end alike: both fail with one fault, or both succeed with related results. -/
inductive SameOutcome {ε β γ : Type} (R : β → γ → Prop) : Except ε β → Except ε γ → Prop where
  | error (fault : ε) : SameOutcome R (.error fault) (.error fault)
  | ok {b : β} {c : γ} (related : R b c) : SameOutcome R (.ok b) (.ok c)

namespace SameOutcome

variable {ε β γ β' γ' : Type} {R : β → γ → Prop} {S : β' → γ' → Prop}

/-- Steps that end alike go on alike, if what follows on related results ends alike. -/
theorem bind {first : Except ε β} {second : Except ε γ} {f : β → Except ε β'} {h : γ → Except ε γ'}
    (before : SameOutcome R first second)
    (after : ∀ b c, first = .ok b → second = .ok c → R b c → SameOutcome S (f b) (h c)) :
    SameOutcome S (first >>= f) (second >>= h) := by
  cases before with
  | error fault => exact .error fault
  | ok related => exact after _ _ rfl rfl related

theorem map {first : Except ε β} {second : Except ε γ} {f : β → β'} {h : γ → γ'} (before : SameOutcome R first second)
    (after : ∀ b c, R b c → S (f b) (h c)) : SameOutcome S (first.map f) (second.map h) := by
  cases before with
  | error fault => exact .error fault
  | ok related => exact .ok (after _ _ related)

theorem imp {S : β → γ → Prop} {first : Except ε β} {second : Except ε γ} (before : SameOutcome R first second)
    (after : ∀ b c, first = .ok b → second = .ok c → R b c → S b c) : SameOutcome S first second := by
  cases before with
  | error fault => exact .error fault
  | ok related => exact .ok (after _ _ rfl rfl related)

theorem refl (outcome : Except ε β) : SameOutcome Eq outcome outcome := by
  cases outcome with
  | error fault => exact .error fault
  | ok b => exact .ok rfl

end SameOutcome

/-! ### Requests and placements in opposite directions -/

/-- The request with this text as its direction. -/
def LayoutGraph.headed {α : Type} (g : LayoutGraph α) (text : String) : LayoutGraph α :=
  { g with options := g.options.insert OptionKey.direction text }

def Direction.opposite : Direction → Direction
  | right => left
  | left => right
  | down => up
  | up => down

namespace Placement

variable {κ : Type}

/-- The same placement in the opposite direction. -/
def opposite (p : Placement ℚ κ) : Placement ℚ κ := { p with direction := p.direction.opposite }

/-- The extent of the content of the container at `path`. -/
def contentSize [Coordinate κ] [NumberText ℚ] (p : Placement ℚ κ) (path : List String)
    (inside : List (Tree (LayoutNode ℚ))) : Except String (Size ℚ) :=
  (p.placeChildren path inside).map Prod.snd

end Placement

theorem direction_headed (g : LayoutGraph ℚ) (text : String) :
    (g.headed text).direction = .ofOption (some text) := by
  simp [LayoutGraph.direction, LayoutGraph.headed, OrderedMap.get?_insert]

/-- Nothing but the direction of a placement depends on the text of the direction. -/
theorem placement_headed {κ : Type} [NumberText ℚ] (layering : Layering κ) (g : LayoutGraph ℚ) {text text' : String}
    (opposite : Direction.ofOption (some text') = (Direction.ofOption (some text)).opposite) :
    (g.headed text').placement layering = ((g.headed text).placement layering).opposite := by
  have spacing : (Spacing.ofOptions (g.headed text').options : Spacing ℚ) = .ofOptions (g.headed text).options := by
    simp [Spacing.ofOptions, LayoutOptions.number?, LayoutGraph.headed, OrderedMap.get?_insert, OptionKey.direction,
      OptionKey.nodeSpacing, OptionKey.layerSpacing, OptionKey.componentSpacing]
  simp only [LayoutGraph.placement, Placement.opposite, direction_headed, opposite, spacing]
  rfl

/-! ### Mirror images -/

/-- The node `v` is where `u` comes to when the content of the container around it is turned round along the flow.  The
content begins after the padding to its left and above it; across the flow nothing moves. -/
def MirrorImage (horizontal : Bool) (padding : Insets ℚ) (content : Size ℚ) (u v : PositionedNode ℚ) : Prop :=
  if horizontal then v.y = u.y ∧ v.x = padding.left + content.width - (u.x - padding.left) - u.width
  else v.x = u.x ∧ v.y = padding.top + content.height - (u.y - padding.top) - u.height

/-- Two placed forms of one node that are the same but for their places. -/
structure SameForm (n : LayoutNode ℚ) (u v : PositionedNode ℚ) : Prop where
  id : u.id = n.id
  sameId : v.id = u.id
  width : v.width = u.width
  height : v.height = u.height
  labels : v.labels = u.labels
  ports : v.ports = u.ports

theorem SameForm.moved {n : LayoutNode ℚ} {u v : PositionedNode ℚ} (form : SameForm n u v) (x y x' y' : ℚ) :
    SameForm n { u with x := x, y := y } { v with x := x', y := y' } :=
  ⟨form.id, form.sameId, form.width, form.height, form.labels, form.ports⟩

theorem sameForm_sized (n : LayoutNode ℚ) (size : Size ℚ) :
    SameForm n (Placement.sized n size) (Placement.sized n size) :=
  ⟨rfl, rfl, rfl, rfl, rfl, rfl⟩

/-- Padding moves a content and everything in it. -/
theorem MirrorImage.indent {horizontal : Bool} {content : Size ℚ} {a b : Tree (PositionedNode ℚ)} (padding : Insets ℚ)
    (mirrored : MirrorImage horizontal Insets.zero content a.value b.value) :
    MirrorImage horizontal padding content (Placement.indent padding a).value (Placement.indent padding b).value := by
  obtain ⟨u, us⟩ := a
  obtain ⟨v, vs⟩ := b
  cases horizontal with
  | true =>
      simp only [MirrorImage, Tree.value_node, Insets.zero, Scalar.zero_eq, if_true, Placement.indent] at mirrored ⊢
      obtain ⟨across, along⟩ := mirrored
      rw [across, along]
      exact ⟨rfl, by ring⟩
  | false =>
      simp only [MirrorImage, Tree.value_node, Insets.zero, Scalar.zero_eq, Placement.indent, Bool.false_eq_true,
        if_false] at mirrored ⊢
      obtain ⟨across, along⟩ := mirrored
      rw [across, along]
      exact ⟨rfl, by ring⟩

theorem forall₂_indent {horizontal : Bool} {content : Size ℚ} {as bs : List (Tree (PositionedNode ℚ))}
    (padding : Insets ℚ)
    (mirrored : List.Forall₂ (fun a b => MirrorImage horizontal Insets.zero content a.value b.value) as bs) :
    List.Forall₂ (fun a b => MirrorImage horizontal padding content a.value b.value)
      (as.map (Placement.indent padding)) (bs.map (Placement.indent padding)) := by
  rw [List.forall₂_map_left_iff, List.forall₂_map_right_iff]
  exact mirrored.imp fun a b image => image.indent padding

/-! ### Arranging in opposite directions -/

section Arranging

variable {κ : Type} {p : Placement ℚ κ} {us vs : List (Tree (PositionedNode ℚ))}

/-- Nodes of the same ids and sizes, in order. -/
abbrev SameSizes (us vs : List (Tree (PositionedNode ℚ))) : Prop :=
  List.Forall₂ (fun u v => v.value.id = u.value.id ∧ v.value.size = u.value.size) us vs

theorem opposite_flowSizes (same : SameSizes us vs) : p.opposite.flowSizes vs = p.flowSizes us := by
  induction same with
  | nil => rfl
  | @cons u v us vs here _ ih =>
      have first : p.opposite.direction.flowSize v.value.size = p.direction.flowSize u.value.size := by
        rw [here.2, Placement.opposite]
        cases p.direction <;> rfl
      simp only [Placement.flowSizes, List.map_cons] at ih ⊢
      rw [first, ih]

/-- In the opposite direction a child has the place that its place is turned round to. -/
theorem slot_mirrored (forward : p.direction.isReversed = false) (packed : Placement.Packed ℚ) (i : ℕ)
    {u v : Tree (PositionedNode ℚ)} (size : v.value.size = u.value.size) :
    MirrorImage p.direction.isHorizontal Insets.zero (p.direction.size packed.2) (p.slot packed i u).value
      (p.opposite.slot packed i v).value := by
  obtain ⟨n, inside⟩ := u
  obtain ⟨m, inside'⟩ := v
  obtain ⟨width, height⟩ := (Size.mk.injEq ..).mp size
  simp only [Tree.value_node] at width height
  simp only [Placement.slot, Placement.opposite]
  generalize (packed.1.lookup i).getD ⟨0.0, 0.0⟩ = place
  generalize p.direction = d at forward ⊢
  cases d with
  | right =>
      simp [MirrorImage, Placement.moveTo, Placement.orient, Direction.opposite, Direction.flowSize, Direction.point,
        Direction.size, Direction.isHorizontal, Direction.isReversed, Insets.zero, Scalar.zero_eq, width,
        PositionedNode.size]
  | left => cases forward
  | down =>
      simp [MirrorImage, Placement.moveTo, Placement.orient, Direction.opposite, Direction.flowSize, Direction.point,
        Direction.size, Direction.isHorizontal, Direction.isReversed, Insets.zero, Scalar.zero_eq, height,
        PositionedNode.size]
  | up => cases forward

/-- Contents of one extent in which the nodes are mirror images. -/
structure MirroredContent (horizontal : Bool) (r l : List (Tree (PositionedNode ℚ)) × Size ℚ) : Prop where
  size : l.2 = r.2
  children : List.Forall₂ (fun a b => MirrorImage horizontal Insets.zero r.2 a.value b.value) r.1 l.1

variable [Coordinate κ]

/-- Children of the same sizes are arranged in mirror images. -/
theorem arrange_mirrored (forward : p.direction.isReversed = false) (path : List String) (same : SameSizes us vs) :
    SameOutcome (MirroredContent p.direction.isHorizontal) (p.arrange path us) (p.opposite.arrange path vs) := by
  rcases eq_or_ne us [] with rfl | notEmpty
  · cases same
    exact .ok ⟨rfl, .nil⟩
  · have notEmpty' : vs ≠ [] := by
      rintro rfl
      exact notEmpty (List.forall₂_nil_right_iff.mp same)
    have count : vs.length = us.length := same.length_eq.symm
    have ids : vs.map (fun v => v.value.id) = us.map fun u => u.value.id := by
      rw [← List.forall₂_eq_eq_eq, List.forall₂_map_left_iff, List.forall₂_map_right_iff]
      exact same.flip.imp fun v u here => here.1
    have ranked :
        rankChildren p.opposite.layering vs.length (p.opposite.projectEdges path (vs.map fun v => v.value.id)) =
          rankChildren p.layering us.length (p.projectEdges path (us.map fun u => u.value.id)) := by
      rw [count, ids]
      rfl
    rw [p.arrange_eq path notEmpty, p.opposite.arrange_eq path notEmpty', ranked]
    apply (SameOutcome.refl _).map
    rintro components _ rfl
    have packed : packComponents p.opposite.spacing (p.opposite.flowSizes vs) components =
        packComponents p.spacing (p.flowSizes us) components := by
      rw [opposite_flowSizes same]
      rfl
    dsimp only
    rw [packed]
    generalize packComponents p.spacing (p.flowSizes us) components = packed
    constructor
    · simp only [Placement.opposite]
      cases p.direction <;> rfl
    · rw [List.forall₂_iff_get]
      refine ⟨by simp [count], fun i inside _ => ?_⟩
      simp only [List.get_eq_getElem, List.getElem_mapIdx]
      rw [List.length_mapIdx] at inside
      exact slot_mirrored forward packed i ((List.forall₂_iff_get.mp same).2 i inside (count ▸ inside)).2

end Arranging

/-! ### Mirror images at every level -/

section Mirrored

variable {κ : Type} [Coordinate κ] [NumberText ℚ]

mutual

/-- In two layouts of one node, the nodes inside it are mirror images of one another at every level.  The contents of
both have one extent. -/
inductive MirroredTree (horizontal : Bool) (p q : Placement ℚ κ) :
    List String → Tree (LayoutNode ℚ) → Tree (PositionedNode ℚ) → Tree (PositionedNode ℚ) → Prop where
  | node {parent : List String} {n : LayoutNode ℚ} {inside : List (Tree (LayoutNode ℚ))} {u v : PositionedNode ℚ}
      {us vs : List (Tree (PositionedNode ℚ))} {content : Size ℚ} (form : SameForm n u v)
      (content_eq : p.contentSize (parent ++ [n.id]) inside = .ok content)
      (sameContent : q.contentSize (parent ++ [n.id]) inside = .ok content)
      (children : List.Forall₂ (fun a b => MirrorImage horizontal n.insets content a.value b.value) us vs)
      (nodes : MirroredForest horizontal p q (parent ++ [n.id]) inside us vs) :
      MirroredTree horizontal p q parent (.node n inside) (.node u us) (.node v vs)

/-- The same for the nodes of a list, in order. -/
inductive MirroredForest (horizontal : Bool) (p q : Placement ℚ κ) :
    List String → List (Tree (LayoutNode ℚ)) → List (Tree (PositionedNode ℚ)) → List (Tree (PositionedNode ℚ)) →
      Prop where
  | nil {parent : List String} : MirroredForest horizontal p q parent [] [] []
  | cons {parent : List String} {t : Tree (LayoutNode ℚ)} {ts : List (Tree (LayoutNode ℚ))}
      {u v : Tree (PositionedNode ℚ)} {us vs : List (Tree (PositionedNode ℚ))}
      (here : MirroredTree horizontal p q parent t u v) (rest : MirroredForest horizontal p q parent ts us vs) :
      MirroredForest horizontal p q parent (t :: ts) (u :: us) (v :: vs)

end

/-- Two layouts of these nodes that have one size and are mirror images.  The content of the whole drawing has the size
of the drawing. -/
structure MirroredLayouts (horizontal : Bool) (p q : Placement ℚ κ) (requested : List (Tree (LayoutNode ℚ)))
    (r l : PositionedGraph ℚ) : Prop where
  width : l.width = r.width
  height : l.height = r.height
  content : p.contentSize [] requested = .ok ⟨r.width, r.height⟩
  sameContent : q.contentSize [] requested = .ok ⟨r.width, r.height⟩
  children : List.Forall₂ (fun a b => MirrorImage horizontal Insets.zero ⟨r.width, r.height⟩ a.value b.value)
    r.children l.children
  nodes : MirroredForest horizontal p q [] requested r.children l.children

variable {horizontal : Bool} {p q : Placement ℚ κ} {parent : List String} {us vs : List (Tree (PositionedNode ℚ))}

/-- Where nodes are placed does not count for what is inside them. -/
theorem MirroredTree.moved {t : Tree (LayoutNode ℚ)} {u v u' v' : Tree (PositionedNode ℚ)}
    (mirrored : MirroredTree horizontal p q parent t u v) (first : Placement.Moved u u')
    (second : Placement.Moved v v') : MirroredTree horizontal p q parent t u' v' := by
  obtain ⟨corner, rfl⟩ := first
  obtain ⟨corner', rfl⟩ := second
  cases mirrored with
  | node form content_eq sameContent children nodes =>
      exact .node (form.moved _ _ _ _) content_eq sameContent children nodes

theorem MirroredForest.moved {ts : List (Tree (LayoutNode ℚ))} {us' vs' : List (Tree (PositionedNode ℚ))}
    (mirrored : MirroredForest horizontal p q parent ts us vs) (first : List.Forall₂ Placement.Moved us us')
    (second : List.Forall₂ Placement.Moved vs vs') : MirroredForest horizontal p q parent ts us' vs' := by
  induction ts generalizing us vs us' vs' with
  | nil =>
      cases mirrored
      cases first
      cases second
      exact .nil
  | cons t ts ih =>
      cases mirrored with
      | cons here rest =>
          cases first with
          | cons movedHere movedRest =>
              cases second with
              | cons movedHere' movedRest' =>
                  exact .cons (here.moved movedHere movedHere') (ih rest movedRest movedRest')

theorem MirroredForest.indent {ts : List (Tree (LayoutNode ℚ))}
    (mirrored : MirroredForest horizontal p q parent ts us vs) (padding : Insets ℚ) :
    MirroredForest horizontal p q parent ts (us.map (Placement.indent padding))
      (vs.map (Placement.indent padding)) := by
  have moved (ws : List (Tree (PositionedNode ℚ))) :
      List.Forall₂ Placement.Moved ws (ws.map (Placement.indent padding)) := by
    rw [List.forall₂_map_right_iff, List.forall₂_same]
    exact fun w _ => ⟨_, Placement.indent_eq_moveTo padding w⟩
  exact mirrored.moved (moved us) (moved vs)

/-- Mirror images have the same sizes. -/
theorem MirroredForest.sameSizes {ts : List (Tree (LayoutNode ℚ))}
    (mirrored : MirroredForest horizontal p q parent ts us vs) : SameSizes us vs := by
  induction ts generalizing us vs with
  | nil =>
      cases mirrored
      exact .nil
  | cons t ts ih =>
      cases mirrored with
      | cons here rest =>
          refine .cons ?_ (ih rest)
          cases here with
          | node form _ _ _ _ => exact ⟨form.sameId, Size.mk.injEq .. |>.mpr ⟨form.width, form.height⟩⟩

/-! ### Placing in opposite directions -/

/-- What is inside a container is placed in one direction as in the opposite one, turned round at every level. -/
structure MirroredInside (p : Placement ℚ κ) (path : List String) (inside : List (Tree (LayoutNode ℚ)))
    (r l : List (Tree (PositionedNode ℚ)) × Size ℚ) : Prop extends MirroredContent p.direction.isHorizontal r l where
  content : p.contentSize path inside = .ok r.2
  sameContent : p.opposite.contentSize path inside = .ok r.2
  nodes : MirroredForest p.direction.isHorizontal p p.opposite path inside r.1 l.1

/-- Nodes that are placed as mirror images are arranged as mirror images. -/
theorem placeChildren_mirrored (forward : p.direction.isReversed = false) {path : List String}
    {inside : List (Tree (LayoutNode ℚ))}
    (inner : SameOutcome (MirroredForest p.direction.isHorizontal p p.opposite path inside) (p.placeForest path inside)
      (p.opposite.placeForest path inside)) :
    SameOutcome (MirroredInside p path inside) (p.placeChildren path inside)
      (p.opposite.placeChildren path inside) := by
  refine inner.bind fun us vs placed placed' nodes => ?_
  refine (arrange_mirrored forward path nodes.sameSizes).imp fun r l arranged arranged' both => ?_
  have placing : p.placeChildren path inside = .ok r := bind_eq_ok_iff.mpr ⟨us, placed, arranged⟩
  have placing' : p.opposite.placeChildren path inside = .ok l := bind_eq_ok_iff.mpr ⟨vs, placed', arranged'⟩
  refine ⟨both, ?_, ?_, nodes.moved (Placement.arrange_moved arranged) (Placement.arrange_moved arranged')⟩
  · rw [Placement.contentSize, placing]
    rfl
  · rw [Placement.contentSize, placing', ← both.size]
    rfl

mutual

/-- A node is placed in one direction as in the opposite one, with everything inside it turned round.  The induction is
on the node: its children have the same sizes in both directions, so that they are packed alike. -/
theorem placeTree_mirrored (forward : p.direction.isReversed = false) (parent : List String) :
    (t : Tree (LayoutNode ℚ)) →
      SameOutcome (MirroredTree p.direction.isHorizontal p p.opposite parent t) (p.placeTree parent t)
        (p.opposite.placeTree parent t)
  | .node n [] => by
      rw [Placement.placeTree_leaf, Placement.placeTree_leaf]
      exact .ok (.node (sameForm_sized n _) rfl rfl .nil .nil)
  | .node n (c :: cs) => by
      rw [p.placeTree_compound parent n (List.cons_ne_nil c cs),
        p.opposite.placeTree_compound parent n (List.cons_ne_nil c cs)]
      apply (placeChildren_mirrored forward (placeForest_mirrored forward (parent ++ [n.id]) (c :: cs))).map
      rintro ⟨as, content⟩ ⟨bs, content'⟩ inside
      obtain rfl : content' = content := inside.size
      exact .node (sameForm_sized n _) inside.content inside.sameContent (forall₂_indent n.insets inside.children)
        (inside.nodes.indent n.insets)

/-- The same for the nodes of a list. -/
theorem placeForest_mirrored (forward : p.direction.isReversed = false) (parent : List String) :
    (ts : List (Tree (LayoutNode ℚ))) →
      SameOutcome (MirroredForest p.direction.isHorizontal p p.opposite parent ts) (p.placeForest parent ts)
        (p.opposite.placeForest parent ts)
  | [] => by
      rw [Placement.placeForest_nil, Placement.placeForest_nil]
      exact .ok .nil
  | t :: ts => by
      rw [Placement.placeForest, Placement.placeForest]
      refine (placeTree_mirrored forward parent t).bind fun u v _ _ here => ?_
      refine (placeForest_mirrored forward parent ts).bind fun us vs _ _ rest => ?_
      exact .ok (.cons here rest)

end

/-! ### Main result -/

/-- A layout and the one in the opposite direction are mirror images, or both fail with one fault. -/
theorem headed_mirrored (layering : Layering κ) (g : LayoutGraph ℚ) {text text' : String}
    {horizontal : Bool} (axis : (Direction.ofOption (some text)).isHorizontal = horizontal)
    (forward : (Direction.ofOption (some text)).isReversed = false)
    (opposite : Direction.ofOption (some text') = (Direction.ofOption (some text)).opposite) :
    SameOutcome
      (MirroredLayouts horizontal ((g.headed text).placement layering) ((g.headed text').placement layering) g.children)
      (layeredLayout layering (g.headed text)) (layeredLayout layering (g.headed text')) := by
  rw [← direction_headed g text] at axis forward
  have nodesMirrored : SameOutcome
      (MirroredLayouts horizontal ((g.headed text).placement layering) ((g.headed text').placement layering) g.children)
      (placeNodes layering (g.headed text)) (placeNodes layering (g.headed text')) := by
    rw [placeNodes_eq, placeNodes_eq, placement_headed layering g opposite, ← axis]
    apply (placeChildren_mirrored forward (placeForest_mirrored forward [] g.children)).map
    rintro ⟨as, content⟩ ⟨bs, content'⟩ inside
    obtain rfl : content' = content := inside.size
    exact ⟨rfl, rfl, inside.content, inside.sameContent, inside.children, inside.nodes⟩
  refine nodesMirrored.bind fun r l _ _ mirrored => ?_
  exact .ok ⟨mirrored.width, mirrored.height, mirrored.content, mirrored.sameContent, mirrored.children, mirrored.nodes⟩

/-- Whatever the layering answers, a request that is laid out to the right and to the left gives mirror images along the
x axis, and one that is laid out downwards and upwards gives mirror images along the y axis. -/
theorem layeredLayout_mirrored (layering : Layering κ) (g : LayoutGraph ℚ) :
    SameOutcome
        (MirroredLayouts true ((g.headed "RIGHT").placement layering) ((g.headed "LEFT").placement layering) g.children)
        (layeredLayout layering (g.headed "RIGHT")) (layeredLayout layering (g.headed "LEFT")) ∧
      SameOutcome
        (MirroredLayouts false ((g.headed "DOWN").placement layering) ((g.headed "UP").placement layering) g.children)
        (layeredLayout layering (g.headed "DOWN")) (layeredLayout layering (g.headed "UP")) := by
  constructor
  · exact headed_mirrored layering g (by decide) (by decide) (by decide)
  · exact headed_mirrored layering g (by decide) (by decide) (by decide)

end Mirrored

end BoxDiagram
