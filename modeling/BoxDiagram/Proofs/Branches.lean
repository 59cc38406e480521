/-
Module: BoxDiagram.Proofs.Branches
Purpose: Branches of a forest taken apart and put together, and the place where two of them part.  When no two nodes of
  a layout request share an id, a node hangs on one branch, and the ids along a branch tell it.
Main exports: PartAfter, exists_partAfter, PartAfter.unique, Tree.Branch.append, Tree.Branch.remainder,
  DistinctIds.branch_unique, DistinctIds.eq_of_idsAlong_eq, exists_branch_of_pathOf?, Owner, exists_owner
-/
import BoxDiagram.Proofs.Paths

namespace BoxDiagram

/-! ### Lists that part -/

section Part

variable {β : Type} {common common' as bs : List β}

/-- Two lists part after `common`: both begin with it, and then go on with different elements. -/
def PartAfter (common as bs : List β) : Prop :=
  ∃ a b as' bs', as = common ++ a :: as' ∧ bs = common ++ b :: bs' ∧ a ≠ b

theorem PartAfter.symm (part : PartAfter common as bs) : PartAfter common bs as := by
  obtain ⟨a, b, as', bs', rfl, rfl, differ⟩ := part
  exact ⟨b, a, bs', as', rfl, rfl, differ.symm⟩

theorem PartAfter.cons (x : β) (part : PartAfter common as bs) : PartAfter (x :: common) (x :: as) (x :: bs) := by
  obtain ⟨a, b, as', bs', rfl, rfl, differ⟩ := part
  exact ⟨a, b, as', bs', rfl, rfl, differ⟩

/-- Lists that part do not begin with one another. -/
theorem PartAfter.not_isPrefix (part : PartAfter common as bs) : ¬ as <+: bs := by
  obtain ⟨a, b, as', bs', rfl, rfl, differ⟩ := part
  intro begins
  have next := (List.prefix_append_right_inj common).mp begins
  exact differ (List.cons_prefix_cons.mp next).1

/-- Lists that do not begin with one another part somewhere. -/
theorem exists_partAfter (left : ¬ as <+: bs) (right : ¬ bs <+: as) : ∃ common, PartAfter common as bs := by
  induction as generalizing bs with
  | nil => exact absurd (List.nil_prefix) left
  | cons a as ih =>
      cases bs with
      | nil => exact absurd (List.nil_prefix) right
      | cons b bs =>
          by_cases same : a = b
          · subst same
            rw [List.cons_prefix_cons, not_and] at left right
            obtain ⟨common, part⟩ := ih (left rfl) (right rfl)
            exact ⟨a :: common, part.cons a⟩
          · exact ⟨[], a, b, as, bs, rfl, rfl, same⟩

/-- Two lists part in one place only. -/
theorem PartAfter.unique (part : PartAfter common as bs) (part' : PartAfter common' as bs) : common = common' := by
  induction common generalizing common' as bs with
  | nil =>
      obtain ⟨a, b, as', bs', rfl, rfl, differ⟩ := part
      obtain ⟨a', b', as'', bs'', left, right, -⟩ := part'
      cases common' with
      | nil => rfl
      | cons x rest =>
          have heads := (List.cons.inj left).1.trans (List.cons.inj right).1.symm
          exact absurd heads differ
  | cons x common ih =>
      obtain ⟨a, b, as', bs', rfl, rfl, differ⟩ := part
      obtain ⟨a', b', as'', bs'', left, right, differ'⟩ := part'
      cases common' with
      | nil =>
          have heads := (List.cons.inj left).1.symm.trans (List.cons.inj right).1
          exact absurd heads differ'
      | cons y rest =>
          obtain ⟨rfl, leftRest⟩ := List.cons.inj left
          obtain ⟨-, rightRest⟩ := List.cons.inj right
          have sameRest : common = rest :=
            ih ⟨a, b, as', bs', rfl, rfl, differ⟩ ⟨a', b', as'', bs'', leftRest, rightRest, differ'⟩
          rw [sameRest]

end Part

/-! ### Branches -/

namespace Tree.Branch

variable {α : Type} {forest path rest : List (Tree α)} {t u x : Tree α}

theorem ne_nil (b : Branch forest path u) : path ≠ [] := by
  cases b with
  | top _ => exact List.cons_ne_nil _ _
  | inside _ _ => exact List.cons_ne_nil _ _

theorem forest_ne_nil (b : Branch forest path u) : forest ≠ [] := by
  cases b with
  | top mem => exact List.ne_nil_of_mem mem
  | inside mem _ => exact List.ne_nil_of_mem mem

/-- A branch from the end of a branch goes on from it. -/
theorem append (b : Branch forest path u) (onward : Branch u.children rest t) : Branch forest (path ++ rest) t := by
  induction b with
  | top mem => exact .inside mem onward
  | inside mem _ ih => exact .inside mem (ih onward)

theorem tail (b : Branch forest (x :: rest) t) (more : rest ≠ []) : Branch x.children rest t := by
  cases b with
  | top _ => exact absurd rfl more
  | inside _ onward => exact onward

/-- Behind the end of a branch, a longer one is a branch from there. -/
theorem remainder (b : Branch forest path u) (long : Branch forest (path ++ rest) t) (more : rest ≠ []) :
    Branch u.children rest t := by
  induction b with
  | top _ => exact long.tail more
  | inside _ _ ih => exact ih (long.tail (List.append_ne_nil_of_right_ne_nil _ more))

/-- A branch begins with one of the trees, and its end is in this tree. -/
theorem head (b : Branch forest (x :: rest) t) : x ∈ forest ∧ t ∈ preorder x := by
  cases b with
  | top mem =>
      rw [preorder_eq_cons]
      exact ⟨mem, List.mem_cons_self⟩
  | inside mem onward =>
      rw [preorder_eq_cons]
      exact ⟨mem, List.mem_cons_of_mem _ onward.mem_preorderForest⟩

/-- To a subtree of a tree in the forest there is a branch that begins with the tree. -/
theorem of_mem_preorder (mem : x ∈ forest) (inside : t ∈ preorder x) : ∃ rest, Branch forest (x :: rest) t := by
  rw [preorder_eq_cons] at inside
  rcases List.mem_cons.mp inside with rfl | below
  · exact ⟨[], .top mem⟩
  · obtain ⟨rest, onward⟩ := exists_branch_of_mem_preorderForest below
    exact ⟨rest, .inside mem onward⟩

/-- The beginning of a branch is a branch, and the branch goes on with a child of its end. -/
theorem beginning (notEmpty : path ≠ []) (b : Branch forest (path ++ x :: rest) t) :
    ∃ u, Branch forest path u ∧ x ∈ u.children := by
  induction path generalizing forest with
  | nil => exact absurd rfl notEmpty
  | cons y path ih =>
      have onward := b.tail (List.append_ne_nil_of_right_ne_nil path (List.cons_ne_nil x rest))
      cases path with
      | nil => exact ⟨y, .top b.head.1, onward.head.1⟩
      | cons z path =>
          obtain ⟨u, before, isChild⟩ := ih (List.cons_ne_nil z path) onward
          exact ⟨u, .inside b.head.1 before, isChild⟩

/-- All trees on a branch are in the forest. -/
theorem mem_of_mem (b : Branch forest path u) (mem : x ∈ path) : x ∈ preorderForest forest := by
  induction b with
  | @top forest t isTree =>
      rw [List.mem_singleton.mp mem]
      exact (Branch.top isTree).mem_preorderForest
  | @inside forest t _ _ isTree _ ih =>
      rcases List.mem_cons.mp mem with rfl | later
      · exact (Branch.top isTree).mem_preorderForest
      · apply preorder_subset_of_mem isTree
        rw [preorder_eq_cons]
        exact List.mem_cons_of_mem _ (ih later)

/-- What is inside the end of a branch is in the forest, in the same order. -/
theorem preorderForest_sublist (b : Branch forest path u) :
    (preorderForest u.children).Sublist (preorderForest forest) := by
  have inside : ∀ {ts : List (Tree α)} {t : Tree α}, t ∈ ts →
      (preorderForest t.children).Sublist (preorderForest ts) := by
    intro ts t mem
    obtain ⟨before, after, rfl⟩ := List.append_of_mem mem
    rw [preorderForest_append, preorderForest_cons, preorder_eq_cons]
    exact ((List.sublist_cons_self _ _).trans (List.sublist_append_left _ _)).trans (List.sublist_append_right _ _)
  induction b with
  | top mem => exact inside mem
  | inside mem _ ih => exact ih.trans (inside mem)

end Tree.Branch

/-- The trees of a forest are among their subtrees, in the same order. -/
theorem Tree.sublist_preorderForest {α : Type} (ts : List (Tree α)) : ts.Sublist (preorderForest ts) := by
  induction ts with
  | nil => exact List.nil_sublist _
  | cons t ts ih =>
      rw [preorderForest_cons, preorder_eq_cons, List.cons_append]
      exact (ih.trans (List.sublist_append_right _ _)).cons_cons t

/-! ### Branches of nodes with different ids -/

section Ids

variable {α : Type} {forest as bs : List (Tree (LayoutNode α))} {a b : Tree (LayoutNode α)}

/-- No two nodes of a forest share an id. -/
def DistinctIds (forest : List (Tree (LayoutNode α))) : Prop :=
  ((Tree.preorderForest forest).map fun u => u.value.id).Nodup

instance : Decidable (DistinctIds forest) := inferInstanceAs (Decidable (List.Nodup _))

variable (distinct : DistinctIds forest)
include distinct

theorem DistinctIds.eq_of_id_eq (aMem : a ∈ Tree.preorderForest forest) (bMem : b ∈ Tree.preorderForest forest)
    (same : a.value.id = b.value.id) : a = b :=
  List.inj_on_of_nodup_map distinct aMem bMem same

/-- Nodes are told by their ids, and so are lists of them. -/
theorem DistinctIds.eq_of_idsAlong_eq (inForest : ∀ x ∈ as, x ∈ Tree.preorderForest forest)
    (inForest' : ∀ x ∈ bs, x ∈ Tree.preorderForest forest) (same : idsAlong as = idsAlong bs) : as = bs := by
  induction as generalizing bs with
  | nil => exact (List.map_eq_nil_iff.mp same.symm).symm
  | cons a as ih =>
      cases bs with
      | nil => exact List.map_eq_nil_iff.mp same
      | cons b bs =>
          obtain ⟨aMem, asMem⟩ := List.forall_mem_cons.mp inForest
          obtain ⟨bMem, bsMem⟩ := List.forall_mem_cons.mp inForest'
          obtain ⟨sameId, sameIds⟩ := List.cons.inj same
          rw [distinct.eq_of_id_eq aMem bMem sameId, ih asMem bsMem sameIds]

/-- A node hangs on one branch. -/
theorem DistinctIds.branch_unique (left : Tree.Branch forest as a) (right : Tree.Branch forest bs a) : as = bs := by
  refine distinct.eq_of_idsAlong_eq (fun x => left.mem_of_mem) (fun x => right.mem_of_mem) ?_
  have path := Hierarchy.lastValue?_paths distinct left
  rw [Hierarchy.lastValue?_paths distinct right] at path
  exact (Option.some.inj path).symm

/-- A node is in another one exactly if its branch begins with that of the other. -/
theorem DistinctIds.isPrefix_iff (left : Tree.Branch forest as a) (right : Tree.Branch forest bs b) :
    as <+: bs ↔ b ∈ Tree.preorder a := by
  rw [Tree.preorder_eq_cons, List.mem_cons]
  constructor
  · rintro ⟨rest, rfl⟩
    rcases eq_or_ne rest [] with rfl | more
    · have ends := right.getLast?_eq
      rw [List.append_nil, left.getLast?_eq] at ends
      exact .inl (Option.some.inj ends).symm
    · exact .inr (left.remainder right more).mem_preorderForest
  · rintro (rfl | below)
    · have same := distinct.branch_unique left right
      subst same
      exact List.prefix_refl as
    · obtain ⟨rest, onward⟩ := Tree.mem_preorderForest_iff.mp below
      exact ⟨rest, distinct.branch_unique (left.append onward) right⟩

end Ids

/-! ### Ends of edges -/

section Owners

variable {α : Type} {g : LayoutGraph α} {endpoint : String}

/-- The node that an end of an edge belongs to: the one its path leads to. -/
def Owner (g : LayoutGraph α) (endpoint : String) (u : Tree (LayoutNode α)) : Prop :=
  ∃ branch, Tree.Branch g.children branch u ∧ g.hierarchy.pathOf? endpoint = some (idsAlong branch)

/-- The path of an end is that of a branch. -/
theorem exists_branch_of_pathOf? {path : List String} (found : g.hierarchy.pathOf? endpoint = some path) :
    ∃ branch u, Tree.Branch g.children branch u ∧ path = idsAlong branch := by
  have entry := mem_of_lastValue?_eq_some found
  rw [LayoutGraph.hierarchy, Hierarchy.ofForest] at entry
  obtain ⟨branch, u, isBranch, -, rfl⟩ := mem_pathsOfForest_iff.mp entry
  exact ⟨branch, u, isBranch, rfl⟩

/-- An end with a path belongs to a node. -/
theorem exists_owner {path : List String}
    (found : g.hierarchy.pathOf? endpoint = some path) : ∃ u, Owner g endpoint u := by
  obtain ⟨branch, u, isBranch, rfl⟩ := exists_branch_of_pathOf? found
  exact ⟨u, branch, isBranch, found⟩

/-- The path of an end leads through nodes of the request. -/
theorem mem_ids_of_mem_path {id : String} {path : List String} (found : g.hierarchy.pathOf? endpoint = some path)
    (mem : id ∈ path) : id ∈ (Tree.preorderForest g.children).map fun u => u.value.id := by
  obtain ⟨branch, u, isBranch, rfl⟩ := exists_branch_of_pathOf? found
  obtain ⟨x, onBranch, rfl⟩ := List.mem_map.mp mem
  exact List.mem_map_of_mem (isBranch.mem_of_mem onBranch)

/-- A port belongs to the node that has it. -/
theorem Owner.port_mem (distinct : DistinctIds g.children) {a : Tree (LayoutNode α)} (owner : Owner g endpoint a)
    (isPort : g.hierarchy.isPort endpoint = true) : ∃ p ∈ a.value.ports, p.id = endpoint := by
  obtain ⟨branch, isBranch, hasPath⟩ := owner
  obtain ⟨ownerId, owned⟩ := Option.isSome_iff_exists.mp isPort
  obtain ⟨u, inForest, hasPort, rfl⟩ := Hierarchy.mem_portOwners_iff.mp (mem_of_lastValue?_eq_some owned)
  obtain ⟨path, branch'⟩ := Tree.mem_preorderForest_iff.mp inForest
  rw [Hierarchy.pathOf?, owned, Option.getD_some, LayoutGraph.hierarchy,
    Hierarchy.lastValue?_paths distinct branch'] at hasPath
  have samePath := distinct.eq_of_idsAlong_eq (fun x => branch'.mem_of_mem) (fun x => isBranch.mem_of_mem)
    (Option.some.inj hasPath)
  subst samePath
  have sameEnd := branch'.getLast?_eq
  rw [isBranch.getLast?_eq] at sameEnd
  rw [Option.some.inj sameEnd]
  exact hasPort

end Owners

end BoxDiagram
