/-
Module: BoxDiagram.Proofs.CollectedLayers
Purpose: Things that are collected for the layers of a drawing by additions and mergers, in any order and nesting.  What is
  rendered has one group for each layer that got something, from the bottom to the top, and the group holds what the layer
  got in the order in which it came.
Main exports: LayeredOutput.Step, LayeredOutput.build, LayeredOutput.putAll, LayeredOutput.groupsInOnePass, render_build
-/
import BoxDiagram.Proofs.LayerGroups

namespace BoxDiagram.LayeredOutput

variable {β : Type}

/-! ### Collecting step by step -/

/-- A step of collecting: a thing is added to a layer, or another output is merged that was collected by steps of its
own. -/
inductive Step (β : Type) where
  | add (layer : Layer) (item : β)
  | merge (steps : List (Step β))

mutual

/-- The output after one more step. -/
def after : LayeredOutput β → Step β → LayeredOutput β
  | o, .add layer item => o.add layer item
  | o, .merge steps => o.merge (afterAll empty steps)

/-- The output after more steps. -/
def afterAll : LayeredOutput β → List (Step β) → LayeredOutput β
  | o, [] => o
  | o, step :: rest => afterAll (after o step) rest

end

/-- What is collected by steps from the beginning. -/
def build (steps : List (Step β)) : LayeredOutput β := afterAll empty steps

mutual

/-- The things that a step puts into a layer. -/
def Step.put (layer : Layer) : Step β → List β
  | .add other item => if other = layer then [item] else []
  | .merge steps => putAll layer steps

/-- The things that steps put into a layer, in the order of the steps. -/
def putAll (layer : Layer) : List (Step β) → List β
  | [] => []
  | step :: rest => step.put layer ++ putAll layer rest

end

/-! ### Mergers -/

@[simp] theorem empty_merge (o : LayeredOutput β) : empty.merge o = o := rfl

@[simp] theorem merge_empty (o : LayeredOutput β) : o.merge empty = o := by
  simp [merge, empty]

theorem merge_assoc (o p q : LayeredOutput β) : (o.merge p).merge q = o.merge (p.merge q) := by
  simp [merge, List.append_assoc]

/-- Merging an output is adding its things one after the other. -/
theorem merge_eq_foldl_add (o p : LayeredOutput β) : o.merge p = p.items.foldl (fun q i => q.add i.1 i.2) o := by
  obtain ⟨items⟩ := p
  induction items generalizing o with
  | nil => exact merge_empty o
  | cons i rest ih =>
      rw [List.foldl_cons, ← ih]
      simp [merge, add]

/-- A step adds to an output what it collects by itself. -/
theorem after_eq_merge (o : LayeredOutput β) (step : Step β) : after o step = o.merge (after empty step) := by
  cases step with
  | add layer item => rw [after, after]; rfl
  | merge steps => rw [after, after, empty_merge]

theorem afterAll_eq_merge (o : LayeredOutput β) (steps : List (Step β)) : afterAll o steps = o.merge (build steps) := by
  induction steps generalizing o with
  | nil => exact (merge_empty o).symm
  | cons step rest ih =>
      rw [build, afterAll, afterAll, ih, ih (after empty step), after_eq_merge o, merge_assoc]

theorem build_cons (step : Step β) (rest : List (Step β)) : build (step :: rest) = (after empty step).merge (build rest) := by
  rw [build, afterAll, afterAll_eq_merge]

theorem build_append (steps more : List (Step β)) : build (steps ++ more) = (build steps).merge (build more) := by
  induction steps with
  | nil => exact (empty_merge (build more)).symm
  | cons step rest ih => rw [List.cons_append, build_cons, build_cons, ih, merge_assoc]

/-- Merging what was collected apart is taking its steps at this place. -/
theorem build_merge (earlier inner later : List (Step β)) :
    build (earlier ++ .merge inner :: later) = build (earlier ++ inner ++ later) := by
  rw [build_append, build_cons, after, empty_merge, ← build, build_append, build_append, merge_assoc]

mutual

theorem inLayer_after (layer : Layer) :
    ∀ step : Step β, (after empty step).inLayer layer = step.put layer
  | .add other item => by
      by_cases same : other = layer <;> simp [after, add, empty, inLayer, Step.put, same]
  | .merge steps => by
      rw [after, empty_merge, Step.put]
      exact inLayer_build layer steps

/-- A layer of what is collected has the things that the steps put into it. -/
theorem inLayer_build (layer : Layer) : ∀ steps : List (Step β), (build steps).inLayer layer = putAll layer steps
  | [] => by
      rw [build, afterAll, putAll]
      rfl
  | step :: rest => by
      rw [build_cons, inLayer_merge, inLayer_after layer step, inLayer_build layer rest, putAll]

end

/-! ### Grouping in one pass -/

/-- Go through things with the group that is being filled: where the layer changes the group is given out, and at the end
the last group is. -/
def fillGroups (current : Layer) (group : List β) (done : List (Layer × List β)) :
    List (Layer × β) → List (Layer × List β)
  | [] => done ++ [(current, group)]
  | (layer, item) :: rest =>
      if layer ≠ current then fillGroups layer [item] (done ++ [(current, group)]) rest
      else fillGroups current (group ++ [item]) done rest

/-- The groups by one pass over the sorted things.  The first thing says which group is filled first. -/
def groupsInOnePass (o : LayeredOutput β) : List (Layer × List β) :=
  match o.items.mergeSort fun a b => a.1.height ≤ b.1.height with
  | [] => []
  | first :: rest => fillGroups first.1 [] [] (first :: rest)

/-- What is given out are the groups of the things in the group and of those to come.  The group is not empty when a layer
changes, so none is given out without anything in it. -/
theorem fillGroups_eq (current : Layer) {group : List β} (notEmpty : group ≠ []) (done : List (Layer × List β))
    (items : List (Layer × β)) :
    fillGroups current group done items = done ++ collect ((group.map fun item => (current, item)) ++ items) := by
  induction items generalizing current group done with
  | nil =>
      rw [fillGroups, collect_append notEmpty (by simp)]
      rfl
  | cons first rest ih =>
      obtain ⟨layer, item⟩ := first
      rw [fillGroups]
      by_cases same : layer = current
      · subst same
        rw [if_neg (not_not_intro rfl), ih layer (List.append_ne_nil_of_right_ne_nil group (List.cons_ne_nil item []))]
        simp
      · have other : ∀ i ∈ ((layer, item) :: rest).head?, i.1 ≠ current := by
          simpa using same
        rw [if_pos same, ih layer (List.cons_ne_nil item []), collect_append notEmpty other, List.append_assoc]
        rfl

/-- One pass over the sorted things makes the groups. -/
theorem groupsInOnePass_eq (o : LayeredOutput β) : o.groupsInOnePass = o.groups := by
  rw [groupsInOnePass, groups]
  cases o.items.mergeSort fun a b => a.1.height ≤ b.1.height with
  | nil => rfl
  | cons first rest =>
      obtain ⟨layer, item⟩ := first
      dsimp only
      rw [fillGroups, if_neg (not_not_intro rfl), fillGroups_eq layer (List.append_ne_nil_of_right_ne_nil [] (by simp))]
      rfl

/-! ### What is rendered -/

/-- There is nothing to render exactly if nothing was collected. -/
theorem render_eq_nil_iff (o : LayeredOutput Svg.Node) : o.render = [] ↔ o.isEmpty = true := by
  rw [render, List.map_eq_nil_iff, isEmpty, List.isEmpty_iff]
  constructor
  · intro noGroup
    rw [List.eq_nil_iff_forall_not_mem]
    rintro ⟨layer, item⟩ collected
    have group : (layer, o.inLayer layer) ∈ o.groups := by
      rw [groups_eq, List.mem_filter]
      exact ⟨List.mem_map_of_mem (Layer.mem_all layer), by simpa using List.ne_nil_of_mem (mem_inLayer.mpr collected)⟩
    rw [noGroup] at group
    exact List.not_mem_nil group
  · intro nothing
    simp [groups, nothing, collect]

/-- The nodes show steps: there is one group for each layer into which the steps put something, from the bottom to the
top, and it holds what they put there in their order. -/
def ShowsSteps (steps : List (Step Svg.Node)) (nodes : List Svg.Node) : Prop :=
  ∃ layers : List Layer, layers.Pairwise (fun a b => a.height < b.height) ∧
    (∀ layer, layer ∈ layers ↔ putAll layer steps ≠ []) ∧
    nodes = layers.map fun layer => layer.group (putAll layer steps)

theorem render_build_shows (steps : List (Step Svg.Node)) : ShowsSteps steps (build steps).render := by
  refine ⟨Layer.all.filter fun layer => !(putAll layer steps).isEmpty, Layer.all_ascending.filter _, fun layer => ?_, ?_⟩
  · simp [Layer.mem_all]
  · rw [render, groups_eq, List.filter_map, List.map_map]
    simp [Function.comp_def, inLayer_build]

/-- However things are collected, by additions and mergers in any nesting, rendering shows all of them in groups, and the
pass over the sorted things that fills one group after the other makes these groups.  A merged output counts as its steps
and as its things at the end, so mergers may be put together in any way, and nothing is rendered exactly for an output
without things. -/
theorem render_build (steps : List (Step Svg.Node)) :
    ShowsSteps steps (build steps).render ∧
    (build steps).render = (build steps).groupsInOnePass.map (fun (layer, nodes) => layer.group nodes) ∧
    (∀ earlier inner later : List (Step Svg.Node),
      (build (earlier ++ .merge inner :: later)).render = (build (earlier ++ inner ++ later)).render) ∧
    (∀ o p : LayeredOutput Svg.Node, (o.merge p).render = (p.items.foldl (fun q i => q.add i.1 i.2) o).render) ∧
    (∀ o p q : LayeredOutput Svg.Node, ((o.merge p).merge q).render = (o.merge (p.merge q)).render) ∧
    (∀ o : LayeredOutput Svg.Node, (empty.merge o).render = o.render ∧ (o.merge empty).render = o.render ∧
      (o.render = [] ↔ o.isEmpty = true)) := by
  refine ⟨render_build_shows steps, ?_, fun earlier inner later => ?_, fun o p => ?_, fun o p q => ?_, fun o => ?_⟩
  · rw [groupsInOnePass_eq, render]
  · rw [build_merge]
  · rw [merge_eq_foldl_add]
  · rw [merge_assoc]
  · exact ⟨congrArg render (empty_merge o), congrArg render (merge_empty o), render_eq_nil_iff o⟩

end BoxDiagram.LayeredOutput
