/-
Module: BoxDiagram.Proofs.LayerGroups
Purpose: The groups of a drawing: one for each layer that is used, from the bottom to the top, and in it the things of
  the layer in the order in which they came.
Main exports: LayeredOutput.inLayer, LayeredOutput.groups_eq
-/
import BoxDiagram.Drawing.Layer
import Mathlib.Data.List.Basic

namespace BoxDiagram

theorem Layer.all_getElem?_height (layer : Layer) : Layer.all[layer.height]? = some layer := by
  cases layer <;> rfl

theorem Layer.height_injective : Function.Injective Layer.height := by
  intro a b same
  have place := all_getElem?_height a
  rw [same, all_getElem?_height b] at place
  exact (Option.some.inj place).symm

theorem Layer.mem_all (layer : Layer) : layer ∈ Layer.all := List.mem_of_getElem? (all_getElem?_height layer)

theorem Layer.all_ascending : Layer.all.Pairwise fun a b => a.height < b.height := by decide

namespace LayeredOutput

variable {β γ : Type}

/-- The things of one layer, in the order in which they came. -/
def inLayer (o : LayeredOutput β) (layer : Layer) : List β := (o.items.filter fun i => i.1 == layer).map (·.2)

@[simp] theorem inLayer_merge (o p : LayeredOutput β) (layer : Layer) :
    (o.merge p).inLayer layer = o.inLayer layer ++ p.inLayer layer := by
  rw [inLayer, merge, List.filter_append, List.map_append]
  rfl

@[simp] theorem inLayer_concat (os : List (LayeredOutput β)) (layer : Layer) :
    (concat os).inLayer layer = os.flatMap fun o => o.inLayer layer := by
  simp only [inLayer, concat, List.filter_flatMap, List.map_flatMap]

@[simp] theorem inLayer_map (f : β → γ) (o : LayeredOutput β) (layer : Layer) :
    (o.map f).inLayer layer = (o.inLayer layer).map f := by
  rw [inLayer, map, inLayer, List.filter_map, List.map_map, List.map_map]
  rfl

/-- Things that are all in one layer. -/
def ofLayer (layer : Layer) (items : List β) : LayeredOutput β := ⟨items.map fun item => (layer, item)⟩

@[simp] theorem inLayer_ofLayer (layer : Layer) (items : List β) : (ofLayer layer items).inLayer layer = items := by
  rw [inLayer, ofLayer, List.filter_eq_self.mpr, List.map_map]
  · exact List.map_id _
  · intro i mem
    obtain ⟨item, -, rfl⟩ := List.mem_map.mp mem
    exact beq_self_eq_true layer

theorem inLayer_ofLayer_of_ne {layer other : Layer} (apart : other ≠ layer) (items : List β) :
    (ofLayer layer items).inLayer other = [] := by
  rw [inLayer, ofLayer, List.map_eq_nil_iff, List.filter_eq_nil_iff]
  intro i mem
  obtain ⟨item, -, rfl⟩ := List.mem_map.mp mem
  simpa using apart.symm

@[simp] theorem mem_inLayer {o : LayeredOutput β} {layer : Layer} {item : β} :
    item ∈ o.inLayer layer ↔ (layer, item) ∈ o.items := by
  simp [inLayer]

/-! ### Neighbours of one layer -/

/-- The first group is of the layer of the first thing. -/
theorem exists_collect_cons (first : Layer × β) (rest : List (Layer × β)) :
    ∃ items groups, collect (first :: rest) = (first.1, items) :: groups := by
  obtain ⟨layer, item⟩ := first
  rw [collect]
  cases collect rest with
  | nil => exact ⟨_, _, rfl⟩
  | cons g groups =>
      by_cases same : layer = g.1
      · exact ⟨_, _, if_pos same⟩
      · exact ⟨_, _, if_neg same⟩

/-- Things of one layer before a thing of another layer form a group. -/
theorem collect_append {layer : Layer} {items : List β} {rest : List (Layer × β)} (notEmpty : items ≠ [])
    (other : ∀ i ∈ rest.head?, i.1 ≠ layer) :
    collect ((items.map fun item => (layer, item)) ++ rest) = (layer, items) :: collect rest := by
  induction items with
  | nil => exact absurd rfl notEmpty
  | cons item items ih =>
      rw [List.map_cons, List.cons_append, collect]
      cases items with
      | nil =>
          rw [List.map_nil, List.nil_append]
          cases rest with
          | nil => rfl
          | cons next rest =>
              obtain ⟨group, groups, collected⟩ := exists_collect_cons next rest
              rw [collected]
              exact if_neg (other next rfl).symm
      | cons next items =>
          rw [ih (List.cons_ne_nil next items)]
          exact if_pos rfl

/-! ### Sorted things -/

/-- In a sorted list the things of the lowest layer stand first. -/
theorem eq_filter_append_of_sorted {layer : Layer} {xs : List (Layer × β)}
    (sorted : xs.Pairwise fun a b => a.1.height ≤ b.1.height) (lowest : ∀ i ∈ xs, layer.height ≤ i.1.height) :
    xs = (xs.filter fun i => i.1 == layer) ++ xs.filter fun i => i.1 != layer := by
  induction xs with
  | nil => rfl
  | cons x rest ih =>
      obtain ⟨below, sortedRest⟩ := List.pairwise_cons.mp sorted
      obtain ⟨lowestHere, lowestRest⟩ := List.forall_mem_cons.mp lowest
      by_cases isLayer : x.1 = layer
      · rw [List.filter_cons_of_pos (by simpa using isLayer), List.filter_cons_of_neg (by simpa using isLayer),
          List.cons_append, ← ih sortedRest lowestRest]
      · have above : ∀ i ∈ x :: rest, i.1 ≠ layer := by
          intro i mem same
          have under : x.1.height ≤ i.1.height := by
            rcases List.mem_cons.mp mem with rfl | later
            · exact Nat.le_refl _
            · exact below i later
          rw [same] at under
          exact isLayer (Layer.height_injective (Nat.le_antisymm under lowestHere))
        have noneHere : ((x :: rest).filter fun i => i.1 == layer) = [] :=
          List.filter_eq_nil_iff.mpr fun i mem => by simpa using above i mem
        have allThere : ((x :: rest).filter fun i => i.1 != layer) = x :: rest :=
          List.filter_eq_self.mpr fun i mem => by simpa using above i mem
        rw [noneHere, allThere, List.nil_append]

/-- Taking the things of one layer away leaves those of any other layer. -/
theorem filter_others {layer other : Layer} (xs : List (Layer × β)) (apart : other ≠ layer) :
    ((xs.filter fun i => i.1 != layer).filter fun i => i.1 == other) = xs.filter fun i => i.1 == other := by
  rw [List.filter_filter]
  refine List.filter_congr fun i _ => ?_
  by_cases isOther : i.1 = other
  · simp [isOther, apart]
  · simp [isOther]

theorem map_filter_layer (layer : Layer) (xs : List (Layer × β)) :
    (((xs.filter fun i => i.1 == layer).map (·.2)).map fun item => (layer, item)) =
      xs.filter fun i => i.1 == layer := by
  rw [List.map_map]
  refine (List.map_congr_left fun i mem => ?_).trans (List.map_id _)
  exact Prod.ext (beq_iff_eq.mp (List.mem_filter.mp mem).2).symm rfl

/-- The groups of a sorted list.  The induction is on the layers that may be used: the things of the lowest one are
taken off as a group, if there are any. -/
theorem collect_sorted {layers : List Layer} (ascending : layers.Pairwise fun a b => a.height < b.height)
    {xs : List (Layer × β)} (sorted : xs.Pairwise fun a b => a.1.height ≤ b.1.height)
    (used : ∀ i ∈ xs, i.1 ∈ layers) :
    collect xs = (layers.map fun l => (l, (xs.filter fun i => i.1 == l).map (·.2))).filter fun g => !g.2.isEmpty := by
  induction layers generalizing xs with
  | nil =>
      cases xs with
      | nil => rfl
      | cons x rest => exact absurd (used x List.mem_cons_self) List.not_mem_nil
  | cons l layers ih =>
      obtain ⟨lowest, ascendingRest⟩ := List.pairwise_cons.mp ascending
      have lowestHere : ∀ i ∈ xs, l.height ≤ i.1.height := by
        intro i mem
        rcases List.mem_cons.mp (used i mem) with same | above
        · exact Nat.le_of_eq (congrArg Layer.height same.symm)
        · exact Nat.le_of_lt (lowest i.1 above)
      have usedLater : ∀ i ∈ xs.filter fun i => i.1 != l, i.1 ∈ layers := by
        intro i mem
        obtain ⟨isThing, other⟩ := List.mem_filter.mp mem
        exact (List.mem_cons.mp (used i isThing)).resolve_left (bne_iff_ne.mp other)
      have sameLater : ∀ k ∈ layers, ((xs.filter fun i => i.1 != l).filter fun i => i.1 == k) =
          xs.filter fun i => i.1 == k := by
        intro k mem
        apply filter_others
        rintro rfl
        exact Nat.lt_irrefl _ (lowest k mem)
      have groupsLater := ih ascendingRest (sorted.filter _) usedLater
      rw [List.map_congr_left fun k mem => by rw [sameLater k mem]] at groupsLater
      have parts := eq_filter_append_of_sorted sorted lowestHere
      rw [← map_filter_layer] at parts
      rw [List.map_cons, List.filter_cons]
      cases first : (xs.filter fun i => i.1 == l).map (·.2) with
      | nil =>
          rw [first, List.map_nil, List.nil_append] at parts
          rw [← parts] at groupsLater
          exact groupsLater
      | cons item items =>
          rw [first] at parts
          have other : ∀ i ∈ (xs.filter fun i => i.1 != l).head?, i.1 ≠ l :=
            fun i mem => bne_iff_ne.mp (List.mem_filter.mp (List.mem_of_mem_head? mem)).2
          have group := collect_append (List.cons_ne_nil item items) other
          rw [← parts, groupsLater] at group
          exact group

theorem height_trans (a b c : Layer × β) (first : decide (a.1.height ≤ b.1.height) = true)
    (second : decide (b.1.height ≤ c.1.height) = true) : decide (a.1.height ≤ c.1.height) = true := by
  rw [decide_eq_true_eq] at first second ⊢
  exact Nat.le_trans first second

theorem height_total (a b : Layer × β) :
    (decide (a.1.height ≤ b.1.height) || decide (b.1.height ≤ a.1.height)) = true := by
  rw [Bool.or_eq_true, decide_eq_true_eq, decide_eq_true_eq]
  exact Nat.le_total _ _

/-- Sorting by layer keeps the order within a layer. -/
theorem filter_mergeSort (items : List (Layer × β)) (layer : Layer) :
    ((items.mergeSort fun a b => a.1.height ≤ b.1.height).filter fun i => i.1 == layer) =
      items.filter fun i => i.1 == layer := by
  have alike : (items.filter fun i => i.1 == layer).Pairwise fun a b => decide (a.1.height ≤ b.1.height) = true := by
    refine List.pairwise_of_forall_mem_list fun a aMem b bMem => ?_
    have aLayer := beq_iff_eq.mp (List.mem_filter.mp aMem).2
    have bLayer := beq_iff_eq.mp (List.mem_filter.mp bMem).2
    rw [aLayer, bLayer]
    exact decide_eq_true (Nat.le_refl _)
  have kept : (items.filter fun i => i.1 == layer).Sublist (items.mergeSort fun a b => a.1.height ≤ b.1.height) :=
    List.sublist_mergeSort height_trans height_total alike List.filter_sublist
  have inGroup := kept.filter fun i => i.1 == layer
  rw [List.filter_filter] at inGroup
  simp only [Bool.and_self] at inGroup
  exact (inGroup.eq_of_length ((List.mergeSort_perm items _).filter _).length_eq.symm).symm

/-- There is one group for every layer that is used, from the bottom to the top, and it holds the things of the layer
in the order in which they came. -/
theorem groups_eq (o : LayeredOutput β) :
    o.groups = (Layer.all.map fun layer => (layer, o.inLayer layer)).filter fun g => !g.2.isEmpty := by
  have sorted : (o.items.mergeSort fun a b => a.1.height ≤ b.1.height).Pairwise fun a b => a.1.height ≤ b.1.height :=
    (List.pairwise_mergeSort height_trans height_total o.items).imp fun le => decide_eq_true_eq.mp le
  rw [groups, collect_sorted Layer.all_ascending sorted fun i _ => Layer.mem_all i.1]
  congr 1
  refine List.map_congr_left fun layer _ => ?_
  rw [filter_mergeSort, inLayer]

end LayeredOutput

end BoxDiagram
