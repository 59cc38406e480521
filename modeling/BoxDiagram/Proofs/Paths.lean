/-
Module: BoxDiagram.Proofs.Paths
Purpose: What the tables of a hierarchy answer.  When no two nodes share an id, the path of an id is that of the
  branch that ends with its node, and the owner of a port is a node that has the port.
Main exports: find?_key_eq_some, lastValue?_eq_some_of_unique, lastValue?_append, mem_pathsOfForest_iff,
  Hierarchy.lastValue?_paths, Hierarchy.mem_portOwners_iff
-/
import BoxDiagram.Layout.Hierarchy
import BoxDiagram.Proofs.Forest
import Mathlib.Data.List.Nodup
import Mathlib.Data.List.Perm.Basic

namespace BoxDiagram

/-! ### Looking up by a key -/

/-- Where no key occurs twice, an element is found under its key. -/
theorem find?_key_eq_some {β γ : Type} [BEq γ] [LawfulBEq γ] {key : β → γ} {xs : List β} (nodup : (xs.map key).Nodup)
    {x : β} (mem : x ∈ xs) : (xs.find? fun y => key y == key x) = some x := by
  have isFound : (xs.find? fun y => key y == key x).isSome = true :=
    List.find?_isSome.mpr ⟨x, mem, beq_self_eq_true _⟩
  obtain ⟨y, found⟩ := Option.isSome_iff_exists.mp isFound
  have sameKey : key y = key x := by simpa using List.find?_some found
  rw [found, List.inj_on_of_nodup_map nodup (List.mem_of_find?_eq_some found) mem sameKey]

/-! ### Tables in which the last entry counts -/

section LastValue

variable {β : Type} {key : String} {value : β} {entries : List (String × β)}

theorem mem_of_lastValue?_eq_some (found : lastValue? key entries = some value) :
    (key, value) ∈ entries := by
  rw [lastValue?, Option.map_eq_some_iff] at found
  obtain ⟨⟨k, v⟩, entry, rfl⟩ := found
  have sameKey : k = key := by simpa using List.find?_some entry
  subst sameKey
  exact List.mem_reverse.mp (List.mem_of_find?_eq_some entry)

theorem lastValue?_eq_none_iff : lastValue? key entries = none ↔ ∀ e ∈ entries, e.1 ≠ key := by
  rw [lastValue?, Option.map_eq_none_iff, List.find?_eq_none]
  simp only [List.mem_reverse, beq_iff_eq]

theorem lastValue?_isSome_iff : (lastValue? key entries).isSome ↔ ∃ v, (key, v) ∈ entries := by
  constructor
  · intro found
    obtain ⟨v, found⟩ := Option.isSome_iff_exists.mp found
    exact ⟨v, mem_of_lastValue?_eq_some found⟩
  · rintro ⟨v, mem⟩
    rw [Option.isSome_iff_ne_none]
    intro missing
    exact lastValue?_eq_none_iff.mp missing (key, v) mem rfl

/-- An entry is found if no other value has its key. -/
theorem lastValue?_eq_some_of_unique (mem : (key, value) ∈ entries)
    (unique : ∀ v, (key, v) ∈ entries → v = value) : lastValue? key entries = some value := by
  obtain ⟨v, found⟩ := Option.isSome_iff_exists.mp (lastValue?_isSome_iff.mpr ⟨value, mem⟩)
  rw [found, unique v (mem_of_lastValue?_eq_some found)]

/-- An entry is found if no key occurs twice. -/
theorem lastValue?_eq_some_of_nodup (nodup : (entries.map (·.1)).Nodup) (mem : (key, value) ∈ entries) :
    lastValue? key entries = some value := by
  have reversed : (entries.reverse.map (·.1)).Nodup := by
    rw [List.map_reverse]
    exact List.nodup_reverse.mpr nodup
  rw [lastValue?, find?_key_eq_some reversed (List.mem_reverse.mpr mem), Option.map_some]

/-- Later entries are looked at first. -/
theorem lastValue?_append (earlier later : List (String × β)) :
    lastValue? key (earlier ++ later) = (lastValue? key later).or (lastValue? key earlier) := by
  rw [lastValue?, lastValue?, lastValue?, List.reverse_append, List.find?_append]
  cases later.reverse.find? fun e => e.1 == key with
  | none => rfl
  | some e => rfl

end LastValue

/-! ### Paths of nodes -/

variable {α : Type}

/-- The ids along a branch of a layout request. -/
def idsAlong (path : List (Tree (LayoutNode α))) : List String := path.map fun t => t.value.id

/-- The last id along a branch is that of the node at its end. -/
theorem idsAlong_getLast? {forest path : List (Tree (LayoutNode α))} {u : Tree (LayoutNode α)}
    (b : Tree.Branch forest path u) : (idsAlong path).getLast? = some u.value.id := by
  rw [idsAlong, List.getLast?_map, b.getLast?_eq, Option.map_some]

mutual

theorem exists_branch_of_mem_pathsOfTree {id : String} {ids : List String} :
    ∀ {parent : List String} {t : Tree (LayoutNode α)}, (id, ids) ∈ pathsOfTree parent t →
      ∃ path u, Tree.Branch [t] path u ∧ u.value.id = id ∧ ids = parent ++ idsAlong path
  | parent, .node n cs, mem => by
      rw [pathsOfTree] at mem
      rcases List.mem_append.mp mem with below | here
      · obtain ⟨path, u, rest, sameId, rfl⟩ := exists_branch_of_mem_pathsOfForest below
        refine ⟨_, u, .inside (List.mem_singleton_self _) rest, sameId, ?_⟩
        rw [List.append_assoc]
        rfl
      · obtain ⟨rfl, rfl⟩ := Prod.mk.inj (List.mem_singleton.mp here)
        exact ⟨_, _, .top (List.mem_singleton_self _), rfl, rfl⟩

/-- An entry of the table of paths belongs to a branch. -/
theorem exists_branch_of_mem_pathsOfForest {id : String} {ids : List String} :
    ∀ {parent : List String} {ts : List (Tree (LayoutNode α))}, (id, ids) ∈ pathsOfForest parent ts →
      ∃ path u, Tree.Branch ts path u ∧ u.value.id = id ∧ ids = parent ++ idsAlong path
  | parent, [], mem => by
      rw [pathsOfForest] at mem
      exact absurd mem List.not_mem_nil
  | parent, t :: ts, mem => by
      rw [pathsOfForest] at mem
      rcases List.mem_append.mp mem with inFirst | inRest
      · obtain ⟨path, u, b, facts⟩ := exists_branch_of_mem_pathsOfTree inFirst
        exact ⟨path, u, b.ofHead ts, facts⟩
      · obtain ⟨path, u, b, facts⟩ := exists_branch_of_mem_pathsOfForest inRest
        exact ⟨path, u, b.ofTail t, facts⟩

end

theorem pathsOfTree_subset {parent : List String} {t : Tree (LayoutNode α)}
    {ts : List (Tree (LayoutNode α))} (mem : t ∈ ts) : pathsOfTree parent t ⊆ pathsOfForest parent ts := by
  induction ts with
  | nil => exact absurd mem List.not_mem_nil
  | cons first rest ih =>
      intro entry inTree
      rw [pathsOfForest]
      rcases List.mem_cons.mp mem with rfl | later
      · exact List.mem_append_left _ inTree
      · exact List.mem_append_right _ (ih later inTree)

theorem mem_pathsOfForest_of_branch {forest path : List (Tree (LayoutNode α))} {u : Tree (LayoutNode α)}
    (b : Tree.Branch forest path u) (parent : List String) :
    (u.value.id, parent ++ idsAlong path) ∈ pathsOfForest parent forest := by
  induction b generalizing parent with
  | @top forest t mem =>
      apply pathsOfTree_subset mem
      cases t with
      | node n cs =>
          rw [pathsOfTree]
          exact List.mem_append_right _ (List.mem_singleton_self _)
  | @inside forest t u path mem _ ih =>
      apply pathsOfTree_subset mem
      cases t with
      | node n cs =>
          rw [pathsOfTree]
          apply List.mem_append_left
          have below := ih (parent ++ [n.id])
          rw [List.append_assoc] at below
          exact below

/-- The table of paths has an entry for every branch, and no others. -/
theorem mem_pathsOfForest_iff {forest : List (Tree (LayoutNode α))} {parent ids : List String}
    {id : String} :
    (id, ids) ∈ pathsOfForest parent forest ↔
      ∃ path u, Tree.Branch forest path u ∧ u.value.id = id ∧ ids = parent ++ idsAlong path := by
  constructor
  · exact exists_branch_of_mem_pathsOfForest
  · rintro ⟨path, u, b, rfl, rfl⟩
    exact mem_pathsOfForest_of_branch b parent

mutual

theorem pathsOfTree_keys_perm :
    ∀ (parent : List String) (t : Tree (LayoutNode α)),
      ((pathsOfTree parent t).map (·.1)).Perm ((Tree.preorder t).map fun u => u.value.id)
  | parent, .node n cs => by
      rw [pathsOfTree, List.map_append, Tree.preorder_eq_cons, List.map_cons]
      exact (List.perm_append_singleton _ _).trans (.cons _ (pathsOfForest_keys_perm _ cs))

/-- The table of paths has one entry for every node. -/
theorem pathsOfForest_keys_perm :
    ∀ (parent : List String) (ts : List (Tree (LayoutNode α))),
      ((pathsOfForest parent ts).map (·.1)).Perm ((Tree.preorderForest ts).map fun u => u.value.id)
  | parent, [] => by
      rw [pathsOfForest, Tree.preorderForest]
      exact .nil
  | parent, t :: ts => by
      rw [pathsOfForest, Tree.preorderForest_cons, List.map_append, List.map_append]
      exact (pathsOfTree_keys_perm parent t).append (pathsOfForest_keys_perm parent ts)

end

/-- The hierarchy of the nodes of a request. -/
def LayoutGraph.hierarchy (g : LayoutGraph α) : Hierarchy := .ofForest g.children

namespace Hierarchy

variable {forest path : List (Tree (LayoutNode α))} {u : Tree (LayoutNode α)}

/-- The path of a node in a request without repeated ids. -/
theorem lastValue?_paths (nodup : ((Tree.preorderForest forest).map fun u => u.value.id).Nodup)
    (b : Tree.Branch forest path u) :
    lastValue? u.value.id (ofForest forest).paths = some (idsAlong path) := by
  have keys : ((pathsOfForest [] forest).map (·.1)).Nodup :=
    (pathsOfForest_keys_perm [] forest).nodup_iff.mpr nodup
  have entry := mem_pathsOfForest_of_branch b []
  rw [List.nil_append] at entry
  exact lastValue?_eq_some_of_nodup keys entry

/-- The id of a node has a path. -/
theorem exists_lastValue?_paths {id : String} (mem : id ∈ (Tree.preorderForest forest).map fun u => u.value.id) :
    ∃ ids, lastValue? id (ofForest forest).paths = some ids := by
  obtain ⟨u, inForest, rfl⟩ := List.mem_map.mp mem
  obtain ⟨path, b⟩ := Tree.mem_preorderForest_iff.mp inForest
  have entry := mem_pathsOfForest_of_branch b []
  exact Option.isSome_iff_exists.mp (lastValue?_isSome_iff.mpr ⟨_, entry⟩)

/-- The owners of ports are the nodes that have them. -/
theorem mem_portOwners_iff {id owner : String} :
    (id, owner) ∈ portOwners forest ↔
      ∃ u ∈ Tree.preorderForest forest, (∃ p ∈ u.value.ports, p.id = id) ∧ u.value.id = owner := by
  simp only [portOwners, List.mem_flatMap, List.mem_map, Prod.mk.injEq]
  constructor
  · rintro ⟨u, inForest, p, isPort, sameId, sameOwner⟩
    exact ⟨u, inForest, ⟨p, isPort, sameId⟩, sameOwner⟩
  · rintro ⟨u, inForest, ⟨p, isPort, sameId⟩, sameOwner⟩
    exact ⟨u, inForest, p, isPort, sameId, sameOwner⟩

/-- An id is that of a port when some node has a port with it. -/
theorem isPort_iff {id : String} :
    (ofForest forest).isPort id = true ↔
      ∃ u ∈ Tree.preorderForest forest, ∃ p ∈ u.value.ports, p.id = id := by
  rw [isPort, lastValue?_isSome_iff]
  constructor
  · rintro ⟨owner, mem⟩
    obtain ⟨u, inForest, hasPort, -⟩ := mem_portOwners_iff.mp mem
    exact ⟨u, inForest, hasPort⟩
  · rintro ⟨u, inForest, hasPort⟩
    exact ⟨u.value.id, mem_portOwners_iff.mpr ⟨u, inForest, hasPort, rfl⟩⟩

end Hierarchy

end BoxDiagram
