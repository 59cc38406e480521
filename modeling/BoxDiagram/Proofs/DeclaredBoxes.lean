/-
Module: BoxDiagram.Proofs.DeclaredBoxes
Purpose: The tree of boxes that a document declares.  Every entry of `boxes` and of `children` is a box, every entry of
  `actors` is a leaf, both in the order of the document and at the depth that the maps around them make up, and the
  names that are collected as actors are those of the boxes that are flagged as actors.
Main exports: ComesFrom, EntryDenotes, EntriesDenote, flaggedNames, RawDocument.DeclaresBoxes,
  RawDocument.lower_declaresBoxes
-/
import BoxDiagram.Document.Lower
import BoxDiagram.Proofs.Forest

namespace BoxDiagram

/-! ### Entries and their boxes -/

/-- A box comes from an entry that has `level` maps around the one it stands in.  It has its name from the entry, and
it is an actor if the entry is in a map of actors or says so. -/
structure ComesFrom (level : Nat) (inActors : Bool) (entry : RawBox) (b : Box) : Prop where
  name : b.name = entry.name
  depth : b.depth = level
  isActor : b.isActor = true ↔ inActors = true ∨ entry.facts.actor = some true

/-- An entry of `actors` is a leaf, whatever stands in its own maps. -/
structure LeafOf (level : Nat) (entry : RawBox) (t : Tree Box) : Prop where
  root : ComesFrom level true entry t.value
  isLeaf : t.children = []

mutual

/-- An entry of `boxes` or of `children` denotes a box.  Inside it are the boxes of the entries of its `children`, and
after them a leaf for every entry of its `actors`. -/
inductive EntryDenotes : Nat → RawBox → Tree Box → Prop where
  | box {level : Nat} {entry : RawBox} {b : Box} {boxes leaves : List (Tree Box)}
      (root : ComesFrom level false entry b)
      (children : EntriesDenote (level + 1) entry.children boxes)
      (actors : List.Forall₂ (LeafOf (level + 1)) entry.actors leaves) :
      EntryDenotes level entry (.node b (boxes ++ leaves))

/-- The entries of a map denote one box each, in their order. -/
inductive EntriesDenote : Nat → List RawBox → List (Tree Box) → Prop where
  | nil {level : Nat} : EntriesDenote level [] []
  | cons {level : Nat} {entry : RawBox} {t : Tree Box} {entries : List RawBox} {ts : List (Tree Box)}
      (head : EntryDenotes level entry t) (rest : EntriesDenote level entries ts) :
      EntriesDenote level (entry :: entries) (t :: ts)

end

theorem RawBoxFacts.lower_comesFrom (level : Nat) (entry : RawBox) :
    ComesFrom level false entry (entry.facts.lower entry.name level) where
  name := rfl
  depth := rfl
  isActor := by
    rw [RawBoxFacts.lower]
    cases entry.facts.actor <;> simp

theorem lowerActor_leafOf (level : Nat) (entry : RawBox) : LeafOf level entry (lowerActor level entry) where
  root := ⟨rfl, rfl, by simp [lowerActor]⟩
  isLeaf := rfl

theorem lowerActors_leaves (level : Nat) (entries : List RawBox) :
    List.Forall₂ (LeafOf level) entries (entries.map (lowerActor level)) :=
  List.forall₂_map_right_iff.mpr (List.forall₂_same.mpr fun entry _ => lowerActor_leafOf level entry)

/-- A bare name is a box like any other, with nothing inside it. -/
theorem lowerBox_eq (level : Nat) (entry : RawBox) :
    lowerBox level entry = .node (entry.facts.lower entry.name level)
      (lowerBoxes (level + 1) entry.children ++ entry.actors.map (lowerActor (level + 1))) := by
  cases entry with
  | bare name =>
      rw [lowerBox, RawBox.children, RawBox.actors, lowerBoxes]
      rfl
  | mk name facts children actors =>
      rw [lowerBox]
      rfl

mutual

theorem lowerBox_denotes : ∀ (level : Nat) (entry : RawBox), EntryDenotes level entry (lowerBox level entry)
  | level, .bare name => by
      rw [lowerBox_eq]
      have none : EntriesDenote (level + 1) (RawBox.bare name).children (lowerBoxes (level + 1) []) := by
        rw [lowerBoxes]
        exact .nil
      exact .box (RawBoxFacts.lower_comesFrom level _) none (lowerActors_leaves _ _)
  | level, .mk name facts children actors => by
      rw [lowerBox_eq]
      exact .box (RawBoxFacts.lower_comesFrom level _) (lowerBoxes_denote (level + 1) children)
        (lowerActors_leaves _ _)

theorem lowerBoxes_denote : ∀ (level : Nat) (entries : List RawBox),
    EntriesDenote level entries (lowerBoxes level entries)
  | level, [] => by
      rw [lowerBoxes]
      exact .nil
  | level, entry :: entries => by
      rw [lowerBoxes]
      exact .cons (lowerBox_denotes level entry) (lowerBoxes_denote level entries)

end

/-! ### Depths -/

/-- A tree comes from an entry, in a map of boxes or of actors. -/
def Denoted (level : Nat) (t : Tree Box) : Prop := ∃ entry, EntryDenotes level entry t ∨ LeafOf level entry t

theorem EntriesDenote.denoted {level : Nat} {entries : List RawBox} :
    ∀ {ts : List (Tree Box)}, EntriesDenote level entries ts → ∀ t ∈ ts, Denoted level t
  | _, .nil => by simp
  | _, .cons head rest => List.forall_mem_cons.mpr ⟨⟨_, .inl head⟩, rest.denoted⟩

theorem leaves_denoted {level : Nat} {entries : List RawBox} {leaves : List (Tree Box)}
    (actors : List.Forall₂ (LeafOf level) entries leaves) : ∀ t ∈ leaves, Denoted level t := by
  induction actors with
  | nil => simp
  | cons leaf _ ih => exact List.forall_mem_cons.mpr ⟨⟨_, .inr leaf⟩, ih⟩

theorem Denoted.depth {level : Nat} {t : Tree Box} (denoted : Denoted level t) : t.value.depth = level := by
  obtain ⟨entry, isBox | isLeaf⟩ := denoted
  · cases isBox with
    | box root _ _ => exact root.depth
  · exact isLeaf.root.depth

theorem Denoted.children {level : Nat} {t : Tree Box} (denoted : Denoted level t) :
    ∀ c ∈ t.children, Denoted (level + 1) c := by
  obtain ⟨entry, isBox | isLeaf⟩ := denoted
  · cases isBox with
    | box _ children actors =>
        intro c mem
        rcases List.mem_append.mp mem with isChild | isActor
        · exact children.denoted c isChild
        · exact leaves_denoted actors c isActor
  · simp [isLeaf.isLeaf]

/-- On a branch every box lies one map deeper than the one before it. -/
theorem Tree.Branch.depth_eq {level : Nat} {forest path : List (Tree Box)} {t : Tree Box}
    (branch : Tree.Branch forest path t) (denoted : ∀ u ∈ forest, Denoted level u) :
    t.value.depth + 1 = level + path.length := by
  induction branch generalizing level with
  | top mem => simp [(denoted _ mem).depth]
  | inside mem _ ih =>
      have below := ih (denoted _ mem).children
      rw [below, List.length_cons]
      omega

/-! ### Actors -/

/-- The names of the boxes of a forest that are flagged as actors. -/
def flaggedNames (forest : List (Tree Box)) : List String :=
  ((Tree.visit forest).filter fun t => t.value.isActor).map fun t => t.value.name

theorem flaggedNames_nil : flaggedNames [] = [] := by
  simp [flaggedNames, Tree.visit]

theorem flaggedNames_append (xs ys : List (Tree Box)) : flaggedNames (xs ++ ys) = flaggedNames xs ++ flaggedNames ys := by
  simp [flaggedNames, Tree.visit_eq_preorderForest, Tree.preorderForest_append]

theorem flaggedNames_cons (t : Tree Box) (ts : List (Tree Box)) :
    flaggedNames (t :: ts) =
      (if t.value.isActor = true then [t.value.name] else []) ++ (flaggedNames t.children ++ flaggedNames ts) := by
  rw [flaggedNames, Tree.visit_eq_preorderForest, Tree.preorderForest_cons, Tree.preorder_eq_cons]
  split <;> simp [flaggedNames, Tree.visit_eq_preorderForest, *]

theorem flaggedNames_leaves {level : Nat} {entries : List RawBox} {leaves : List (Tree Box)}
    (actors : List.Forall₂ (LeafOf level) entries leaves) : flaggedNames leaves = entries.map RawBox.name := by
  induction actors with
  | nil => exact flaggedNames_nil
  | cons leaf _ ih =>
      have flagged := leaf.root.isActor.mpr (.inl rfl)
      rw [flaggedNames_cons, if_pos flagged, leaf.root.name, leaf.isLeaf, flaggedNames_nil, ih]
      rfl

/-- The collection passes over a bare name, which is no actor and has none inside it. -/
theorem actorNamesOf_eq (entry : RawBox) :
    actorNamesOf entry = (if entry.facts.actor == some true then [entry.name] else []) ++
      entry.actors.map RawBox.name ++ actorNames entry.children := by
  cases entry with
  | bare name => rfl
  | mk name facts children actors => rfl

mutual

/-- The collection comes to the actors in `actors` before those in `children`, the drawing the other way round. -/
theorem EntryDenotes.actorNames_perm : ∀ {level : Nat} {entry : RawBox} {t : Tree Box},
    EntryDenotes level entry t → (actorNamesOf entry).Perm (flaggedNames [t])
  | _, entry, .node b _, .box root children actors => by
      have sameFlag : (entry.facts.actor == some true) = b.isActor := by
        rw [Bool.eq_iff_iff, root.isActor]
        simp
      rw [actorNamesOf_eq, flaggedNames_cons, Tree.children_node, flaggedNames_append, flaggedNames_leaves actors,
        flaggedNames_nil, List.append_nil, Tree.value_node, sameFlag, root.name, List.append_assoc]
      have inside := children.actorNames_perm.append_left (entry.actors.map RawBox.name)
      exact (inside.trans List.perm_append_comm).append_left _

theorem EntriesDenote.actorNames_perm : ∀ {level : Nat} {entries : List RawBox} {ts : List (Tree Box)},
    EntriesDenote level entries ts → (actorNames entries).Perm (flaggedNames ts)
  | _, _, _, .nil => by
      rw [actorNames, flaggedNames_nil]
  | _, _, _, .cons head rest => by
      rw [actorNames, ← List.singleton_append, flaggedNames_append]
      exact head.actorNames_perm.append rest.actorNames_perm

end

/-! ### Documents -/

variable {α : Type}

/-- A diagram has the boxes that a document declares.  A box with `k` others around it has depth `k`, and the actors of
the diagram are, in another order, the names of the boxes that are flagged as actors, as often as they occur. -/
structure RawDocument.DeclaresBoxes (document : RawDocument α) (d : Diagram α) : Prop where
  boxes : EntriesDenote 0 document.boxes d.boxes
  depths {path : List (Tree Box)} {t : Tree Box} : Tree.Branch d.boxes path t → t.value.depth + 1 = path.length
  actors : d.actors.Perm ((d.allBoxes.filter fun t => t.value.isActor).map fun t => t.value.name)

/-- Reading a document gives the boxes that it declares. -/
theorem RawDocument.lower_declaresBoxes [Scalar α] (document : RawDocument α) :
    document.DeclaresBoxes document.lower := by
  have boxes : EntriesDenote 0 document.boxes document.lower.boxes := lowerBoxes_denote 0 document.boxes
  constructor
  · exact boxes
  · intro path t branch
    rw [branch.depth_eq boxes.denoted, Nat.zero_add]
  · exact boxes.actorNames_perm

/-- The actors are not in the order of the boxes, and a bare name may stand for one. -/
example :
    let bot : RawBox := .mk "Bot" { RawBoxFacts.empty with actor := some true } [] []
    let entries := [.mk "Shop" .empty [bot, .bare "Store"] [.bare "User"]]
    actorNames entries = ["User", "Bot"] ∧ flaggedNames (lowerBoxes 0 entries) = ["Bot", "User"] := by
  decide +kernel

end BoxDiagram
