/-
Module: BoxDiagram.Proofs.SvgQueries
Purpose: Questions to a document: which elements of a name it has, and what its layers hold.
Main exports: Svg.Node.named, Svg.Node.layerContent, Svg.Node.shown, namedIn_render, layerContentIn_render
-/
import BoxDiagram.Proofs.LayerGroups

namespace BoxDiagram

namespace Svg.Node

/-- The name of an element. -/
def tag? : Node → Option String
  | .text _ => none
  | .element tag _ _ => some tag

/-- The value of an attribute; of several ones the first counts. -/
def attribute? (name : String) : Node → Option String
  | .text _ => none
  | .element _ attributes _ => attributes.lookup name

mutual

/-- The elements of a name in a node, in the order in which they begin. -/
def named (name : String) : Node → List Node
  | .text _ => []
  | .element tag attributes children =>
      (if tag = name then [.element tag attributes children] else []) ++ namedIn name children

/-- The elements of a name in the nodes of a list. -/
def namedIn (name : String) : List Node → List Node
  | [] => []
  | n :: rest => named name n ++ namedIn name rest

end

mutual

/-- What the groups of a layer in a node hold, one after the other. -/
def layerContent (layer : String) : Node → List Node
  | .text _ => []
  | .element _ attributes children =>
      match attributes.lookup "data-layer" with
      | some name => if name = layer then children else []
      | none => layerContentIn layer children

/-- What the groups of a layer in the nodes of a list hold. -/
def layerContentIn (layer : String) : List Node → List Node
  | [] => []
  | n :: rest => layerContent layer n ++ layerContentIn layer rest

end

mutual

/-- The characters that a node shows. -/
def shown : Node → String
  | .text content => content
  | .element _ _ children => shownIn children

/-- The characters that the nodes of a list show, one after the other. -/
def shownIn : List Node → String
  | [] => ""
  | n :: rest => shown n ++ shownIn rest

end

theorem namedIn_eq_flatMap (name : String) (ns : List Node) : namedIn name ns = ns.flatMap (named name) := by
  induction ns with
  | nil => rw [namedIn, List.flatMap_nil]
  | cons n rest ih => rw [namedIn, ih, List.flatMap_cons]

theorem layerContentIn_eq_flatMap (layer : String) (ns : List Node) :
    layerContentIn layer ns = ns.flatMap (layerContent layer) := by
  induction ns with
  | nil => rw [layerContentIn, List.flatMap_nil]
  | cons n rest ih => rw [layerContentIn, ih, List.flatMap_cons]

theorem namedIn_eq_nil {name : String} {ns : List Node} (none : ∀ n ∈ ns, named name n = []) :
    namedIn name ns = [] := by
  rw [namedIn_eq_flatMap, List.flatMap_eq_nil_iff]
  exact none

@[simp] theorem namedIn_append (name : String) (ms ns : List Node) :
    namedIn name (ms ++ ns) = namedIn name ms ++ namedIn name ns := by
  rw [namedIn_eq_flatMap, List.flatMap_append, ← namedIn_eq_flatMap, ← namedIn_eq_flatMap]

@[simp] theorem layerContentIn_append (layer : String) (ms ns : List Node) :
    layerContentIn layer (ms ++ ns) = layerContentIn layer ms ++ layerContentIn layer ns := by
  rw [layerContentIn_eq_flatMap, List.flatMap_append, ← layerContentIn_eq_flatMap, ← layerContentIn_eq_flatMap]

/-- An element of another name counts only for what is inside it. -/
theorem named_element {name tag : String} (other : tag ≠ name) (attributes : List (String × String))
    (children : List Node) : named name (.element tag attributes children) = namedIn name children := by
  rw [named, if_neg other, List.nil_append]

/-- An element that is not the group of a layer counts for what is inside it. -/
theorem layerContent_element {attributes : List (String × String)} (noLayer : attributes.lookup "data-layer" = none)
    (layer tag : String) (children : List Node) :
    layerContent layer (.element tag attributes children) = layerContentIn layer children := by
  rw [layerContent, noLayer]

end Svg.Node

/-! ### Rendered layers -/

namespace LayeredOutput

/-- Groups without anything in them do not count where they contribute nothing. -/
theorem flatMap_groups {β γ : Type} (o : LayeredOutput β) {f : Layer × List β → List γ}
    (nothing : ∀ layer, f (layer, []) = []) :
    o.groups.flatMap f = Layer.all.flatMap fun layer => f (layer, o.inLayer layer) := by
  rw [groups_eq]
  induction Layer.all with
  | nil => rfl
  | cons layer rest ih =>
      rw [List.map_cons, List.filter_cons, List.flatMap_cons]
      cases things : o.inLayer layer with
      | nil =>
          rw [nothing, List.nil_append, ← ih]
          rfl
      | cons item items =>
          rw [← ih]
          rfl

/-- The elements of a name in rendered layers are those of the layers one after the other. -/
theorem namedIn_render {name : String} (other : "g" ≠ name) (o : LayeredOutput Svg.Node) :
    Svg.Node.namedIn name o.render = Layer.all.flatMap fun layer => Svg.Node.namedIn name (o.inLayer layer) := by
  rw [Svg.Node.namedIn_eq_flatMap, render, List.flatMap_map,
    ← flatMap_groups o (f := fun g => Svg.Node.namedIn name g.2) fun _ => Svg.Node.namedIn_eq_nil (by simp)]
  refine List.flatMap_congr fun g _ => ?_
  exact Svg.Node.named_element other _ _

/-- Rendered layers in which nothing has an element of a name have none. -/
theorem namedIn_render_eq_nil {name : String} (other : "g" ≠ name) {o : LayeredOutput Svg.Node}
    (none : ∀ i ∈ o.items, Svg.Node.named name i.2 = []) : Svg.Node.namedIn name o.render = [] := by
  rw [namedIn_render other, List.flatMap_eq_nil_iff]
  exact fun layer _ => Svg.Node.namedIn_eq_nil fun n mem => none (layer, n) (mem_inLayer.mp mem)

theorem layerContent_group (layer : String) (other : Layer) (nodes : List Svg.Node) :
    Svg.Node.layerContent layer (other.group nodes) = if other.name = layer then nodes else [] := by
  rw [Layer.group, Svg.group, Svg.Node.layerContent]
  rfl

/-- The content of a layer in rendered layers is what was put into it. -/
theorem layerContentIn_render (layer : Layer) (o : LayeredOutput Svg.Node) :
    Svg.Node.layerContentIn layer.name o.render = o.inLayer layer := by
  rw [Svg.Node.layerContentIn_eq_flatMap, render, List.flatMap_map]
  have groups : (o.groups.flatMap fun g => Svg.Node.layerContent layer.name (g.1.group g.2)) =
      o.groups.flatMap fun g => if g.1.name = layer.name then g.2 else [] :=
    List.flatMap_congr fun g _ => layerContent_group layer.name g.1 g.2
  have dropped := flatMap_groups o (f := fun g => if g.1.name = layer.name then g.2 else []) (by simp)
  refine (groups.trans dropped).trans ?_
  cases layer <;> simp [Layer.all, Layer.name]

end LayeredOutput

end BoxDiagram
