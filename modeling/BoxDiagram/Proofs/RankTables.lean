/-
Module: BoxDiagram.Proofs.RankTables
Purpose: The ranking of children with tables.  The children seen so far and the layers of a component are kept in tables
  that are written one entry at a time; an index outside of a table and a number below zero make the ranking fail.  It
  never fails, and its result is that of the ranking without tables.
Main exports: modifyEntry?, difference?, layersByTable?, componentRanksByTable?, rankByTables?, rankByTables?_eq
-/
import BoxDiagram.Proofs.RankPartition

namespace BoxDiagram

/-! ### Tables -/

/-- A table with one entry changed; there is no entry at an index outside of the table. -/
def modifyEntry? {β : Type} (table : List β) (i : ℕ) (change : β → β) : Option (List β) :=
  if i < table.length then some (table.modify i change) else none

theorem modifyEntry?_eq {β : Type} {table : List β} {i : ℕ} (inside : i < table.length) (change : β → β) :
    modifyEntry? table i change = some (table.modify i change) :=
  if_pos inside

/-- What is left of a number after another one is taken away; there is nothing below zero. -/
def difference? (a b : ℕ) : Option ℕ := if b ≤ a then some (a - b) else none

theorem difference?_eq {a b : ℕ} (enough : b ≤ a) : difference? a b = some (a - b) := if_pos enough

/-! ### The layers of a component -/

/-- The number of the layer that a level becomes.  Layers that are turned round are counted from the last one. -/
def layerNumber? (backward : Bool) (levels level : ℕ) : Option ℕ :=
  if backward then do
    let last ← difference? levels 1
    difference? last level
  else some level

theorem layerNumber?_eq (backward : Bool) {levels level : ℕ} (inside : level < levels) :
    layerNumber? backward levels level = some (levelAt backward levels level) := by
  cases backward with
  | false => rfl
  | true =>
      have last : difference? levels 1 = some (levels - 1) := difference?_eq (by omega)
      have turned : difference? (levels - 1) level = some (levels - 1 - level) := difference?_eq (by omega)
      simp [layerNumber?, levelAt, last, turned]

section Layers

variable {κ : Type}

/-- Members written into their layers, one after the other, each at the end. -/
def fillLayers? (number? : PlacedVertex κ → Option ℕ) :
    List (PlacedVertex κ) → List (List (PlacedVertex κ)) → Option (List (List (PlacedVertex κ)))
  | [], layers => some layers
  | m :: rest, layers => do
      let layers ← modifyEntry? layers (← number? m) (· ++ [m])
      fillLayers? number? rest layers

/-- If every member has a number inside the table, each layer gets the members with its number, in their order. -/
theorem fillLayers?_eq {number? : PlacedVertex κ → Option ℕ} {number : PlacedVertex κ → ℕ}
    {members : List (PlacedVertex κ)} {layers : List (List (PlacedVertex κ))}
    (numbered : ∀ m ∈ members, number? m = some (number m)) (inside : ∀ m ∈ members, number m < layers.length) :
    fillLayers? number? members layers =
      some (layers.mapIdx fun k layer => layer ++ members.filter fun m => number m == k) := by
  induction members generalizing layers with
  | nil => simp [fillLayers?, List.mapIdx_eq_zipIdx_map]
  | cons m rest ih =>
      obtain ⟨numberedHere, numberedRest⟩ := List.forall_mem_cons.mp numbered
      obtain ⟨insideHere, insideRest⟩ := List.forall_mem_cons.mp inside
      have later := @ih (layers.modify (number m) (· ++ [m])) numberedRest (by simpa using insideRest)
      simp only [fillLayers?, numberedHere, Option.bind_eq_bind, Option.bind_some, modifyEntry?_eq insideHere, later,
        Option.some.injEq]
      apply List.ext_getElem
      · simp
      · intro k _ _
        by_cases here : number m = k
        · simp [here]
        · simp [here]

variable [Coordinate κ]

/-- The layers of the members of a component, written into a table with a place for every level. -/
def layersByTable? (members : List (PlacedVertex κ)) (edges : List (ℕ × ℕ)) : Option Ranks := do
  let levels := levelsOf members
  let backward := runsBackward levels members edges
  let layers ← fillLayers? (fun m => layerNumber? backward levels.length (levelOf levels m.y)) members
    (List.replicate levels.length [])
  return layers.map fun layer => (layer.mergeSort alongLayer).map (·.vertex)

/-- With any coordinates, every member has a level, and turned round it is still the number of a layer. -/
theorem layersByTable?_eq {members : List (PlacedVertex κ)} (notEmpty : members ≠ []) (edges : List (ℕ × ℕ)) :
    layersByTable? members edges = some (ranksOfCoordinates members edges) := by
  have below := levelOf_lt (levelsOf_ne_nil notEmpty)
  rw [layersByTable?, ranksOfCoordinates]
  generalize runsBackward (levelsOf members) members edges = backward
  generalize levelsOf members = levels at below
  have filled := @fillLayers?_eq _ _ _ members (List.replicate levels.length [])
    (fun m _ => layerNumber?_eq backward (below m.y))
    (fun m _ => by simpa using levelAt_lt (below m.y) backward)
  have turnedBack : ∀ k < levels.length, ∀ m : PlacedVertex κ,
      (levelAt backward levels.length (levelOf levels m.y) == k) =
        (levelOf levels m.y == levelAt backward levels.length k) := by
    intro k inside m
    rw [Bool.eq_iff_iff, beq_iff_eq, beq_iff_eq]
    constructor
    · rintro rfl
      exact (levelAt_levelAt (below m.y) backward).symm
    · intro same
      rw [same, levelAt_levelAt inside backward]
  simp only [filled, Option.bind_eq_bind, Option.bind_some, Option.pure_def, Option.some.injEq]
  apply List.ext_getElem
  · simp
  · intro k inside _
    have isLevel : k < levels.length := by simpa using inside
    simp only [List.getElem_map, List.getElem_mapIdx, List.getElem_replicate, List.nil_append, List.getElem_range,
      turnedBack k isLevel]
    rfl

end Layers

/-! ### The children seen so far -/

/-- The table that tells for each of `count` children whether it has been seen. -/
def seenTable (count : ℕ) (seen : List ℕ) : List Bool := (List.range count).map fun i => seen.contains i

section Seen

variable {count : ℕ} {seen : List ℕ}

@[simp] theorem length_seenTable (count : ℕ) (seen : List ℕ) : (seenTable count seen).length = count := by
  simp [seenTable]

theorem seenTable_getElem? {i : ℕ} (inside : i < count) : (seenTable count seen)[i]? = some (seen.contains i) := by
  simp [seenTable, inside]

theorem seenTable_nil (count : ℕ) : seenTable count [] = List.replicate count false := by
  simp [seenTable]

/-- The table with the entries of these children set. -/
def markSeen? (table : List Bool) : List ℕ → Option (List Bool)
  | [] => some table
  | i :: rest => do markSeen? (← modifyEntry? table i fun _ => true) rest

theorem markSeen?_eq {children : List ℕ} (below : ∀ i ∈ children, i < count) :
    markSeen? (seenTable count seen) children = some (seenTable count (children ++ seen)) := by
  induction children generalizing seen with
  | nil => rfl
  | cons i rest ih =>
      obtain ⟨belowHere, belowRest⟩ := List.forall_mem_cons.mp below
      have marked : (seenTable count seen).modify i (fun _ => true) = seenTable count (i :: seen) := by
        apply List.ext_getElem
        · simp
        · intro k _ _
          by_cases here : i = k
          · simp [seenTable, here]
          · simp [seenTable, here, Ne.symm here]
      have reordered : seenTable count (rest ++ i :: seen) = seenTable count (i :: rest ++ seen) := by
        simp only [seenTable, List.contains_eq_mem, List.mem_append, List.mem_cons]
        exact List.map_congr_left fun k _ => decide_eq_decide.mpr (by tauto)
      have inside : i < (seenTable count seen).length := by simpa using belowHere
      rw [← reordered]
      simp [markSeen?, modifyEntry?_eq inside, marked, ih belowRest]

/-- The children that have no entry in the table. -/
def unseen (table : List Bool) : List ℕ := (table.zipIdx.filter fun entry => !entry.1).map (·.2)

theorem unseen_seenTable (count : ℕ) (seen : List ℕ) :
    unseen (seenTable count seen) = (List.range count).filter fun i => !seen.contains i := by
  have numbered : (seenTable count seen).zipIdx = (List.range count).map fun i => (seen.contains i, i) := by
    apply List.ext_getElem
    · simp
    · intro k _ _
      simp [seenTable]
  rw [unseen, numbered, List.filter_map, List.map_map]
  exact List.map_id _

end Seen

/-! ### All components -/

section Components

variable {κ : Type}

/-- The members of a component that are children and have not been seen.  The table is only asked about children. -/
def newMembers? (count : ℕ) (table : List Bool) : List (PlacedVertex κ) → Option (List (PlacedVertex κ))
  | [] => some []
  | m :: rest => do
      let isNew ← if m.vertex < count then table[m.vertex]?.map (!·) else some false
      let later ← newMembers? count table rest
      return if isNew then m :: later else later

theorem newMembers?_eq (count : ℕ) (seen : List ℕ) (component : List (PlacedVertex κ)) :
    newMembers? count (seenTable count seen) component =
      some (component.filter fun m => m.vertex < count && !seen.contains m.vertex) := by
  induction component with
  | nil => rfl
  | cons m rest ih =>
      by_cases isChild : m.vertex < count
      · have looked : (seenTable count seen)[m.vertex]? = some (seen.contains m.vertex) := seenTable_getElem? isChild
        cases known : seen.contains m.vertex with
        | false => simp_all [newMembers?]
        | true => simp_all [newMembers?]
      · simp [newMembers?, ih, isChild]

variable [Coordinate κ]

/-- The layers of the components of a layering, one after the other, and the table of what has been seen after them. -/
def componentRanksByTable? (count : ℕ) (edges : List (ℕ × ℕ)) :
    List (List (PlacedVertex κ)) → List Bool → Option (List Ranks × List Bool)
  | [], table => some ([], table)
  | component :: rest, table => do
      let members ← newMembers? count table component
      if members.isEmpty then componentRanksByTable? count edges rest table
      else
        let table ← markSeen? table (members.map (·.vertex))
        let ranks ← layersByTable? members edges
        let (more, table) ← componentRanksByTable? count edges rest table
        return (ranks :: more, table)

/-- The table always tells what has been seen.  The induction is on the components, each of which adds its new members
to the table. -/
theorem componentRanksByTable?_eq (count : ℕ) (edges : List (ℕ × ℕ)) (components : List (List (PlacedVertex κ)))
    (seen : List ℕ) :
    componentRanksByTable? count edges components (seenTable count seen) =
      some ((componentRanks count edges components seen).1,
        seenTable count (componentRanks count edges components seen).2) := by
  induction components generalizing seen with
  | nil => rfl
  | cons component rest ih =>
      rw [componentRanksByTable?, componentRanks, newMembers?_eq]
      have below : ∀ i ∈ (component.filter fun m => m.vertex < count && !seen.contains m.vertex).map (·.vertex),
          i < count := by
        intro i mem
        obtain ⟨m, isNew, rfl⟩ := List.mem_map.mp mem
        have kept := (List.mem_filter.mp isNew).2
        simp only [Bool.and_eq_true, decide_eq_true_eq] at kept
        exact kept.1
      simp only [Option.bind_eq_bind, Option.bind_some]
      generalize (component.filter fun m => m.vertex < count && !seen.contains m.vertex) = members at below
      by_cases isEmpty : members.isEmpty = true
      · rw [if_pos isEmpty, if_pos isEmpty]
        exact ih seen
      · have notEmpty : members ≠ [] := fun none => isEmpty (List.isEmpty_iff.mpr none)
        rw [if_neg isEmpty, if_neg isEmpty, markSeen?_eq below, Option.bind_some, layersByTable?_eq notEmpty,
          Option.bind_some, ih, Option.bind_some]
        rfl

/-- The layers of `count` children, ranked with tables. -/
def rankByTables? (count : ℕ) (edges : List (ℕ × ℕ)) (components : List (List (PlacedVertex κ))) :
    Option (List Ranks) := do
  let (ranks, table) ← componentRanksByTable? count edges components (List.replicate count false)
  return (ranks ++ (unseen table).map fun i => [[i]]).mergeSort startsBefore

/-- Ranking with tables never fails, whatever the components are. -/
theorem rankByTables?_eq (count : ℕ) (edges : List (ℕ × ℕ)) (components : List (List (PlacedVertex κ))) :
    rankByTables? count edges components =
      some (((componentRanks count edges components []).1 ++
        ((List.range count).filter fun i => !(componentRanks count edges components []).2.contains i).map
          fun i => [[i]]).mergeSort startsBefore) := by
  rw [rankByTables?, ← seenTable_nil, componentRanksByTable?_eq, Option.bind_eq_bind, Option.bind_some,
    ← unseen_seenTable]
  rfl

end Components

end BoxDiagram
