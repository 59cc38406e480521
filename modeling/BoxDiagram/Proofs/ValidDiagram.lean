/-
Module: BoxDiagram.Proofs.ValidDiagram
Purpose: What a diagram without faults promises to the layout: no two of its boxes share an id, and both ends of
  every edge name a box, and a port of it if they name one.
Main exports: Diagram.endpoints, Diagram.ids_nodup_of_valid, Diagram.exists_box_of_valid
-/
import BoxDiagram.Diagram.Validation
import BoxDiagram.Proofs.Forest
import Mathlib.Data.List.Nodup

namespace BoxDiagram

theorem Identifier.text_injective : Function.Injective Identifier.text := by
  intro a b sameText
  cases a
  cases b
  exact congrArg Identifier.mk sameText

/-- The first part of a port's identifier is that of its box, so the port's id can be read off. -/
theorem Identifier.port_injective (box : Identifier) : Function.Injective box.port := by
  intro p q samePort
  have sameText : box.text ++ "_" ++ p = box.text ++ "_" ++ q := congrArg Identifier.text samePort
  exact (String.append_right_inj _).mp sameText

/-- A port never has the identifier of its own box. -/
theorem Identifier.port_ne_self (box : Identifier) (portId : String) : box.port portId ≠ box := by
  intro samePort
  have sameText : box.text ++ "_" ++ portId = box.text := congrArg Identifier.text samePort
  have sameLength := congrArg String.length sameText
  rw [String.length_append, String.length_append] at sameLength
  have underscore : "_".length = 1 := rfl
  omega

theorem EdgeEndpoint.nodeId_of_no_port {e : EdgeEndpoint} (plain : e.port = none) : e.nodeId = e.boxId := by
  rw [EdgeEndpoint.nodeId, plain]

theorem EdgeEndpoint.nodeId_of_port {e : EdgeEndpoint} {portId : String} (named : e.port = some portId) :
    e.nodeId = e.boxId.port portId := by
  rw [EdgeEndpoint.nodeId, named]

namespace Diagram

variable {α : Type} {d : Diagram α} {e : EdgeEndpoint}

/-- The ends of all edges in the order in which they are checked. -/
def endpoints (d : Diagram α) : List EdgeEndpoint := d.edges.flatMap fun e => [e.source, e.target]

theorem mem_endpoints_source {edge : Edge} (mem : edge ∈ d.edges) : edge.source ∈ d.endpoints :=
  List.mem_flatMap.mpr ⟨edge, mem, List.mem_cons_self⟩

theorem mem_endpoints_target {edge : Edge} (mem : edge ∈ d.edges) : edge.target ∈ d.endpoints :=
  List.mem_flatMap.mpr ⟨edge, mem, List.mem_cons_of_mem _ List.mem_cons_self⟩

/-! ### Ids -/

/-- No fault is reported exactly if no box has the id of one before it.  The induction carries along the boxes
that came before. -/
theorem idErrors_eq_nil_iff {before boxes : List Box} :
    idErrors before boxes = [] ↔
      (∀ b ∈ boxes, ∀ a ∈ before, a.id ≠ b.id) ∧ (boxes.map Box.id).Nodup := by
  induction boxes generalizing before with
  | nil => simp [idErrors]
  | cons b rest ih =>
      rw [idErrors]
      cases found : before.find? fun a => a.id = b.id with
      | some a =>
          have inBefore : a ∈ before := List.mem_of_find?_eq_some found
          have sameId : a.id = b.id := by simpa using List.find?_some found
          constructor
          · intro impossible
            exact absurd impossible (List.cons_ne_nil _ _)
          · rintro ⟨apart, -⟩
            exact absurd sameId (apart b List.mem_cons_self a inBefore)
      | none =>
          have newId : ∀ a ∈ before, a.id ≠ b.id := by simpa using found
          rw [ih, List.map_cons, List.nodup_cons]
          constructor
          · rintro ⟨apart, nodup⟩
            refine ⟨?_, ?_, nodup⟩
            · intro c inBoxes a inBefore
              rcases List.mem_cons.mp inBoxes with rfl | inRest
              · exact newId a inBefore
              · exact apart c inRest a (List.mem_append_left _ inBefore)
            · intro repeated
              obtain ⟨c, inRest, sameId⟩ := List.mem_map.mp repeated
              exact apart c inRest b (List.mem_append_right _ (List.mem_singleton_self _)) sameId.symm
          · rintro ⟨apart, isNew, nodup⟩
            refine ⟨?_, nodup⟩
            intro c inRest a inBefore
            rcases List.mem_append.mp inBefore with earlier | last
            · exact apart c (List.mem_cons_of_mem _ inRest) a earlier
            · rw [List.mem_singleton.mp last]
              intro sameId
              exact isNew (List.mem_map.mpr ⟨c, inRest, sameId.symm⟩)

/-- No two boxes of a diagram without faults share an id. -/
theorem ids_nodup_of_valid (valid : d.validate = []) :
    ((Tree.preorderForest d.boxes).map fun t => t.value.id.text).Nodup := by
  have noFault : idErrors [] (d.allBoxes.map Tree.value) = [] := by
    simp only [validate, List.append_eq_nil_iff] at valid
    exact valid.1.2
  have nodup := (idErrors_eq_nil_iff.mp noFault).2.map Identifier.text_injective
  rw [allBoxes, Tree.visit_eq_preorderForest] at nodup
  rw [List.map_map, List.map_map] at nodup
  exact nodup

/-- A box of a diagram without faults is determined by its id. -/
theorem box_unique_of_valid (valid : d.validate = []) {t u : Tree Box} (ht : t ∈ d.allBoxes)
    (hu : u ∈ d.allBoxes) (sameId : t.value.id = u.value.id) : t = u := by
  rw [allBoxes, Tree.visit_eq_preorderForest] at ht hu
  exact List.inj_on_of_nodup_map (ids_nodup_of_valid valid) ht hu (congrArg Identifier.text sameId)

/-! ### Ends of edges -/

theorem endpointProblem?_eq_none_of_valid (valid : d.validate = []) (mem : e ∈ d.endpoints) :
    endpointProblem? (.ofForest d.boxes) e = none := by
  have noFault : d.edgeErrors = [] := by
    simp only [validate, List.append_eq_nil_iff] at valid
    exact valid.2
  obtain ⟨edge, inEdges, isEnd⟩ := List.mem_flatMap.mp mem
  obtain ⟨i, bound, rfl⟩ := List.getElem_of_mem inEdges
  have position : (d.edges[i], i) ∈ d.edges.zipIdx := by
    rw [List.mem_zipIdx_iff_getElem?]
    exact List.getElem?_eq_getElem bound
  have bothEnds := List.filterMap_eq_nil_iff.mp (List.flatMap_eq_nil_iff.mp noFault _ position)
  rcases List.mem_cons.mp isEnd with rfl | isTarget
  · exact Option.map_eq_none_iff.mp (bothEnds (.source, d.edges[i].source) List.mem_cons_self)
  · rw [List.mem_singleton.mp isTarget]
    exact Option.map_eq_none_iff.mp
      (bothEnds (.target, d.edges[i].target) (List.mem_cons_of_mem _ List.mem_cons_self))

theorem mem_of_index_get? {roots : List (Tree Box)} {id : String} {t : Tree Box}
    (found : (BoxIndex.ofForest roots).get? id = some t) :
    t ∈ Tree.visit roots ∧ t.value.id.text = id := by
  rw [BoxIndex.get?] at found
  have sameId : t.value.id.text = id := by simpa using List.find?_some found
  exact ⟨List.mem_reverse.mp (List.mem_of_find?_eq_some found), sameId⟩

/-- A box of a diagram without faults is found under its id. -/
theorem index_get?_of_valid (valid : d.validate = []) {t : Tree Box} (mem : t ∈ d.allBoxes) :
    (BoxIndex.ofForest d.boxes).get? t.value.id.text = some t := by
  cases found : (BoxIndex.ofForest d.boxes).get? t.value.id.text with
  | none =>
      rw [BoxIndex.get?, List.find?_eq_none] at found
      exact absurd (decide_eq_true rfl) (found t (List.mem_reverse.mpr mem))
  | some u =>
      obtain ⟨isBox, sameText⟩ := mem_of_index_get? found
      rw [box_unique_of_valid valid isBox mem (Identifier.text_injective sameText)]

/-- An end of an edge of a diagram without faults names a box, and a port of it if it names one. -/
theorem exists_box_of_valid (valid : d.validate = []) (mem : e ∈ d.endpoints) :
    ∃ t ∈ d.allBoxes, t.value.id = e.boxId ∧
      ∀ portId, e.port = some portId → ∃ p, t.value.port? portId = some p := by
  have noProblem := endpointProblem?_eq_none_of_valid valid mem
  rw [endpointProblem?] at noProblem
  split at noProblem
  · exact absurd noProblem (Option.some_ne_none _)
  · cases found : (BoxIndex.ofForest d.boxes).get? e.boxId.text with
    | none => simp [found] at noProblem
    | some t =>
        obtain ⟨inBoxes, sameText⟩ := mem_of_index_get? found
        refine ⟨t, inBoxes, Identifier.text_injective sameText, ?_⟩
        intro portId named
        simp only [found, named] at noProblem
        cases hasPort : t.value.port? portId with
        | none => simp [hasPort] at noProblem
        | some p => exact ⟨p, rfl⟩

end Diagram

end BoxDiagram
