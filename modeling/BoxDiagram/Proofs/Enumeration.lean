/-
Module: BoxDiagram.Proofs.Enumeration
Purpose: Lists that enumerate what is found at ordered places, each place once.  A search through such a list finds what
  is at the first place that fits.  Preorder enumerates the subtrees of a forest by their addresses.
Main exports: Enumerates, FirstMatch, Enumerates.firstMatch_find?, entryAt?, Enumerates.flatMap, Tree.subtreeAt?,
  Tree.enumerates_preorderForest
-/
import BoxDiagram.Proofs.Addresses
import Mathlib.Data.Prod.Lex

namespace BoxDiagram

variable {P β γ : Type}

/-- The list has what is found at the places: it goes through them in their order, to each place once, and passes over
no place at which something is. -/
def Enumerates (before : P → P → Prop) (at? : P → Option β) (xs : List β) : Prop :=
  ∃ places : List P, places.Pairwise before ∧ (∀ p, p ∈ places ↔ (at? p).isSome) ∧ places.map at? = xs.map some

/-- The answer is what is found at the first place where something fits, or nothing if nothing fits anywhere. -/
def FirstMatch (before : P → P → Prop) (at? : P → Option β) (fits : β → Prop) : Option β → Prop
  | some x => ∃ place, at? place = some x ∧ fits x ∧ ∀ earlier, before earlier place → ∀ y ∈ at? earlier, ¬ fits y
  | none => ∀ place, ∀ y ∈ at? place, ¬ fits y

namespace Enumerates

variable {before : P → P → Prop} {at? : P → Option β} {xs : List β}

theorem mem_iff_exists_place (e : Enumerates before at? xs) {x : β} : x ∈ xs ↔ ∃ p, at? p = some x := by
  obtain ⟨places, -, complete, found⟩ := e
  have mem : x ∈ xs ↔ some x ∈ places.map at? := by simp [found]
  rw [mem, List.mem_map]
  constructor
  · rintro ⟨p, -, here⟩
    exact ⟨p, here⟩
  · rintro ⟨p, here⟩
    exact ⟨p, (complete p).mpr (by rw [here]; rfl), here⟩

/-- Every entry has a place, and what is at earlier places comes before the entry.  Places after its own are not earlier,
since no two places are both before one another. -/
theorem exists_place_of_split [Std.Asymm before] {left right : List β} {x : β}
    (e : Enumerates before at? (left ++ x :: right)) :
    ∃ place, at? place = some x ∧ ∀ earlier, before earlier place → ∀ y ∈ at? earlier, y ∈ left := by
  obtain ⟨places, ordered, complete, found⟩ := e
  rw [List.map_append, List.map_cons, List.map_eq_append_iff] at found
  obtain ⟨leftPlaces, rest, rfl, foundLeft, foundRest⟩ := found
  obtain ⟨place, rightPlaces, rfl, here, -⟩ := List.map_eq_cons_iff.mp foundRest
  obtain ⟨-, restOrdered, -⟩ := List.pairwise_append.mp ordered
  refine ⟨place, here, fun earlier isEarlier y atEarlier => ?_⟩
  have notInRest : earlier ∉ place :: rightPlaces := by
    intro inRest
    rcases List.mem_cons.mp inRest with rfl | later
    · exact asymm isEarlier isEarlier
    · exact asymm isEarlier ((List.pairwise_cons.mp restOrdered).1 earlier later)
  have inPlaces : earlier ∈ leftPlaces ++ place :: rightPlaces := (complete earlier).mpr (by rw [atEarlier]; rfl)
  have inLeft : earlier ∈ leftPlaces := (List.mem_append.mp inPlaces).resolve_right notInRest
  have isFound : some y ∈ left.map some := by
    rw [← foundLeft, ← atEarlier]
    exact List.mem_map_of_mem inLeft
  simpa using isFound

/-- A search through an enumeration finds what is at the first place that fits. -/
theorem firstMatch_find? [Std.Asymm before] (e : Enumerates before at? xs) (fits : β → Prop) [DecidablePred fits] :
    FirstMatch before at? fits (xs.find? fun x => fits x) := by
  cases result : xs.find? fun x => fits x with
  | none =>
      intro p y here
      have inList : y ∈ xs := e.mem_iff_exists_place.mpr ⟨p, here⟩
      simpa using List.find?_eq_none.mp result y inList
  | some x =>
      obtain ⟨fitting, left, right, rfl, missed⟩ := List.find?_eq_some_iff_append.mp result
      obtain ⟨place, here, passed⟩ := e.exists_place_of_split
      refine ⟨place, here, by simpa using fitting, fun earlier isEarlier y atEarlier => ?_⟩
      simpa using missed y (passed earlier isEarlier y atEarlier)

end Enumerates

/-! ### Lists at places -/

section Lists

variable {before : P → P → Prop} {at? : P → Option β} {xs : List β} (f : β → List γ)

/-- The entry with the number `p.2` in the list of what is found at the place `p.1`. -/
def entryAt? (at? : P → Option β) (f : β → List γ) (p : P × Nat) : Option γ :=
  (at? p.1).bind fun x => (f x)[p.2]?

/-- The places of the entries of the list at a place. -/
def entryPlaces (at? : P → Option β) (f : β → List γ) (p : P) : List (P × Nat) :=
  (at? p).elim [] fun x => (List.range (f x).length).map (Prod.mk p)

theorem mem_entryPlaces_iff {p : P} {q : P × Nat} :
    q ∈ entryPlaces at? f p ↔ q.1 = p ∧ (entryAt? at? f q).isSome := by
  obtain ⟨place, number⟩ := q
  rw [entryPlaces, entryAt?]
  constructor
  · intro mem
    cases here : at? p with
    | none => simp [here] at mem
    | some x =>
        have parts : number < (f x).length ∧ p = place := by simpa [here] using mem
        obtain ⟨inList, rfl⟩ := parts
        simpa [here] using inList
  · rintro ⟨rfl, isEntry⟩
    cases here : at? place with
    | none => simp [here] at isEntry
    | some x => simpa [here] using isEntry

theorem map_entryAt?_entryPlaces (p : P) :
    (entryPlaces at? f p).map (entryAt? at? f) = (at? p).elim [] fun x => (f x).map some := by
  cases here : at? p with
  | none => simp [entryPlaces, here]
  | some x =>
      apply List.ext_getElem
      · simp [entryPlaces, here]
      · intro k inLeft inRight
        simp [entryPlaces, entryAt?, here]

theorem pairwise_entryPlaces (p : P) : (entryPlaces at? f p).Pairwise (Prod.Lex before (· < ·)) := by
  cases here : at? p with
  | none => simp [entryPlaces, here]
  | some x =>
      rw [entryPlaces, here, Option.elim_some, List.pairwise_map]
      exact List.pairwise_lt_range.imp fun isLess => Prod.Lex.right p isLess

/-- If each of the enumerated things has a list, then the entries of all these lists are enumerated: the lists are in the
order of their places, and each has its entries in its own order. -/
theorem Enumerates.flatMap (e : Enumerates before at? xs) :
    Enumerates (Prod.Lex before (· < ·)) (entryAt? at? f) (xs.flatMap f) := by
  obtain ⟨places, ordered, complete, found⟩ := e
  refine ⟨places.flatMap (entryPlaces at? f), ?_, ?_, ?_⟩
  · rw [List.pairwise_flatMap]
    refine ⟨fun p _ => pairwise_entryPlaces f p, ordered.imp fun isBefore a inFirst b inSecond => ?_⟩
    rw [mem_entryPlaces_iff] at inFirst inSecond
    rw [Prod.lex_def, inFirst.1, inSecond.1]
    exact .inl isBefore
  · intro q
    simp only [List.mem_flatMap, mem_entryPlaces_iff]
    constructor
    · rintro ⟨p, -, -, isEntry⟩
      exact isEntry
    · intro isEntry
      refine ⟨q.1, (complete q.1).mpr ?_, rfl, isEntry⟩
      cases here : at? q.1 with
      | none => simp [entryAt?, here] at isEntry
      | some x => rfl
  · calc (places.flatMap (entryPlaces at? f)).map (entryAt? at? f)
        = places.flatMap fun p => (at? p).elim [] fun x => (f x).map some := by
          simp only [List.map_flatMap, map_entryAt?_entryPlaces]
      _ = (places.map at?).flatMap fun found => found.elim [] fun x => (f x).map some := by
          rw [List.flatMap_map]
      _ = xs.flatMap fun x => (f x).map some := by
          rw [found, List.flatMap_map]
          rfl
      _ = (xs.flatMap f).map some := by
          rw [List.map_flatMap]

end Lists

/-! ### The subtrees of a forest -/

namespace Tree

variable {α : Type}

/-- The subtree at an address. -/
def subtreeAt? (forest : List (Tree α)) (address : List Nat) : Option (Tree α) :=
  (descend? forest address).bind List.getLast?

variable {forest : List (Tree α)} {t : Tree α} {i : Nat}

theorem descend?_cons_ne_nil {address : List Nat} {path : List (Tree α)}
    (met : descend? forest (i :: address) = some path) : path ≠ [] := by
  rw [descend?] at met
  obtain ⟨t, -, onward⟩ := Option.bind_eq_some_iff.mp met
  obtain ⟨rest, -, rfl⟩ := Option.map_eq_some_iff.mp onward
  exact List.cons_ne_nil t rest

theorem subtreeAt?_isSome_iff {address : List Nat} :
    (subtreeAt? forest address).isSome ↔ address ≠ [] ∧ (descend? forest address).isSome := by
  cases address with
  | nil => simp [subtreeAt?]
  | cons i address =>
      cases met : descend? forest (i :: address) with
      | none => simp [subtreeAt?, met]
      | some path =>
          have last := List.getLast?_eq_some_getLast (descend?_cons_ne_nil met)
          simp [subtreeAt?, met, last]

theorem subtreeAt?_singleton (chosen : forest[i]? = some t) : subtreeAt? forest [i] = some t := by
  rw [subtreeAt?, descend?_cons chosen, descend?_nil]
  rfl

theorem subtreeAt?_cons_cons (chosen : forest[i]? = some t) (j : Nat) (address : List Nat) :
    subtreeAt? forest (i :: j :: address) = subtreeAt? t.children (j :: address) := by
  rw [subtreeAt?, descend?_cons chosen, subtreeAt?]
  cases met : descend? t.children (j :: address) with
  | none => rfl
  | some path =>
      have last := List.getLast?_eq_some_getLast (descend?_cons_ne_nil met)
      rw [Option.map_some, Option.bind_some, Option.bind_some, List.getLast?_cons, last, Option.getD_some]

mutual

theorem map_subtreeAt?_addresses : ∀ {t : Tree α} {forest : List (Tree α)} {i : Nat}, forest[i]? = some t →
    (addresses t).map (fun address => subtreeAt? forest (i :: address)) = (preorder t).map some
  | .node v cs, forest, i, chosen => by
      have whole : cs.drop 0 = cs := List.drop_zero
      have inside : ∀ address ∈ addressesForest 0 cs, subtreeAt? forest (i :: address) = subtreeAt? cs address := by
        intro address mem
        obtain ⟨j, rest, rfl, -⟩ := exists_cons_of_mem_addressesForest mem
        exact subtreeAt?_cons_cons chosen j rest
      rw [addresses, preorder, List.map_cons, List.map_cons, subtreeAt?_singleton chosen, List.map_congr_left inside,
        map_subtreeAt?_addressesForest whole]

/-- In the order of their addresses, the subtrees of the last trees of a forest are in preorder. -/
theorem map_subtreeAt?_addressesForest : ∀ {ts forest : List (Tree α)} {i : Nat}, forest.drop i = ts →
    (addressesForest i ts).map (subtreeAt? forest) = (preorderForest ts).map some
  | [], forest, i, _ => by
      rw [addressesForest, preorderForest]
      rfl
  | t :: ts, forest, i, dropped => by
      obtain ⟨chosen, later⟩ := getElem?_of_drop dropped
      rw [addressesForest, preorderForest_cons, List.map_append, List.map_append, List.map_map,
        map_subtreeAt?_addressesForest later]
      exact congrArg (· ++ _) (map_subtreeAt?_addresses chosen)

end

/-- Preorder has the subtrees of a forest in the lexicographic order of their addresses, each address once. -/
theorem enumerates_preorderForest (forest : List (Tree α)) :
    Enumerates (· < ·) (subtreeAt? forest) (preorderForest forest) := by
  refine ⟨addressesForest 0 forest, addressesForest_pairwise 0 forest, ?_,
    map_subtreeAt?_addressesForest List.drop_zero⟩
  intro address
  rw [mem_addressesForest_iff List.drop_zero, subtreeAt?_isSome_iff]
  cases address with
  | nil => simp
  | cons i rest => simp

end Tree

end BoxDiagram
