/-
Module: BoxDiagram.Proofs.ValidationReport
Purpose: The validation of a diagram, told without the way it is carried out: a report has one entry for each faulty
  thing, and it is empty for exactly the well-formed diagrams.
Main exports: Reports, Diagram.WellFormed, NameFault, FlowFault, PortFault, IdFault, EndFault,
  Diagram.validate_reports
-/
import BoxDiagram.Proofs.ValidDiagram
import Mathlib.Data.Finset.Card

namespace BoxDiagram

/-! ### Reports -/

/-- Going through things in their order, there is one fault for each thing that has one, and none for any other. -/
inductive Reports {β ε : Type} (fault : β → ε → Prop) : List β → List ε → Prop where
  | done : Reports fault [] []
  | faulty {x : β} {e : ε} {xs : List β} {es : List ε} (here : fault x e) (rest : Reports fault xs es) :
      Reports fault (x :: xs) (e :: es)
  | sound {x : β} {xs : List β} {es : List ε} (here : ∀ e, ¬ fault x e) (rest : Reports fault xs es) :
      Reports fault (x :: xs) es

namespace Reports

variable {β ε : Type} {fault : β → ε → Prop} {xs : List β} {es : List ε}

/-- A check that answers with the fault of a thing makes such a report. -/
theorem of_check {check : β → Option ε} (spec : ∀ x e, check x = some e ↔ fault x e) (xs : List β) :
    Reports fault xs (xs.filterMap check) := by
  induction xs with
  | nil => exact .done
  | cons x xs ih =>
      cases found : check x with
      | some e =>
          rw [List.filterMap_cons_some found]
          exact .faulty ((spec x e).mp found) ih
      | none =>
          rw [List.filterMap_cons_none found]
          apply Reports.sound _ ih
          intro e isFault
          rw [(spec x e).mpr isFault] at found
          cases found

theorem length_le (reports : Reports fault xs es) : es.length ≤ xs.length := by
  induction reports with
  | done => exact Nat.le_refl _
  | faulty _ _ ih => exact Nat.succ_le_succ ih
  | sound _ _ ih => exact Nat.le_succ_of_le ih

theorem eq_nil_iff (reports : Reports fault xs es) : es = [] ↔ ∀ x ∈ xs, ∀ e, ¬ fault x e := by
  induction reports with
  | done => simp
  | @faulty x e xs es here _ _ =>
      constructor
      · intro impossible
        cases impossible
      · intro allSound
        exact absurd here (allSound x List.mem_cons_self e)
  | @sound x xs es here _ ih =>
      rw [ih, List.forall_mem_cons]
      exact ⟨fun rest => ⟨here, rest⟩, And.right⟩

end Reports

/-! ### Faults -/

/-- A diagram needs a name, and one with something to see. -/
inductive NameFault : Option String → ValidationError → Prop where
  | absent : NameFault none .missingName
  | blank {name : String} (blank : ∀ c ∈ name.toList, Text.isBlank c = true) : NameFault (some name) .missingName

inductive FlowFault : FlowDirection → ValidationError → Prop where
  | unknown (word : String) : FlowFault (.unknown word) (.unknownFlow word)

/-- The direction of a port of a box is not known. -/
inductive PortFault : Box × Port → ValidationError → Prop where
  | unknown {b : Box} {p : Port} {word : String} (direction : p.direction = .unknown word) :
      PortFault (b, p) (.unknownPortDirection b.name p.id word)

/-- A box has the id of a box before it.  The fault names the first box with the id. -/
inductive IdFault : List Box × Box → ValidationError → Prop where
  | shared {before after : List Box} {first b : Box} (same : first.id = b.id)
      (isFirst : ∀ a ∈ before, a.id ≠ b.id) :
      IdFault (before ++ first :: after, b) (.sharedId first.name b.name b.id.text)

/-- What is wrong with an end of an edge between these boxes.  Where several boxes share the id that the end names, the
last of them is taken. -/
inductive EndpointFault (boxes : List Box) (e : EdgeEndpoint) : EndpointProblem → Prop where
  | missing (blank : ∀ c ∈ e.boxName.toList, Text.isBlank c = true) : EndpointFault boxes e .missing
  | unknownBox {c : Char} (mem : c ∈ e.boxName.toList) (visible : Text.isBlank c = false)
      (none : ∀ b ∈ boxes, b.id ≠ e.boxId) : EndpointFault boxes e (.unknownBox e.boxName)
  | unknownPort {c : Char} (mem : c ∈ e.boxName.toList) (visible : Text.isBlank c = false)
      {before after : List Box} {b : Box} (split : boxes = before ++ b :: after) (same : b.id = e.boxId)
      (isLast : ∀ a ∈ after, a.id ≠ e.boxId) {port : String} (named : e.port = some port)
      (none : ∀ p ∈ b.ports, p.id ≠ port) : EndpointFault boxes e (.unknownPort b.name port)

/-- The fault of an end tells the edge by its number, and the end with its text. -/
inductive EndFault (boxes : List Box) : ℕ × EdgeEnd × EdgeEndpoint → ValidationError → Prop where
  | bad {i : ℕ} {which : EdgeEnd} {e : EdgeEndpoint} {problem : EndpointProblem}
      (fault : EndpointFault boxes e problem) :
      EndFault boxes (i, which, e) (.badEndpoint i which e.display problem)

namespace Diagram

variable {α : Type} (d : Diagram α)

/-! ### Things to check -/

/-- The boxes at any depth, outer boxes before those inside them. -/
def boxList : List Box := (Tree.preorderForest d.boxes).map Tree.value

/-- The ports of all boxes, each with its box. -/
def portList : List (Box × Port) := d.boxList.flatMap fun b => b.ports.map fun p => (b, p)

/-- The ends of all edges with the numbers of the edges, the source of an edge before its target. -/
def endList : List (ℕ × EdgeEnd × EdgeEndpoint) :=
  d.edges.zipIdx.flatMap fun (e, i) => [(i, .source, e.source), (i, .target, e.target)]

/-- Every thing of a list together with those before it. -/
def withEarlier {β : Type} : List β → List β → List (List β × β)
  | _, [] => []
  | before, x :: rest => (before, x) :: withEarlier (before ++ [x]) rest

/-- An end of an edge names a box, by a name with something to see, and a port of the box if it names one. -/
structure Resolves (boxes : List Box) (e : EdgeEndpoint) : Prop where
  visible : ∃ c ∈ e.boxName.toList, Text.isBlank c = false
  box : ∃ b ∈ boxes, b.id.text = Identifier.sanitise e.boxName ∧
    ∀ port, e.port = some port → ∃ p ∈ b.ports, p.id = port

/-- What makes a diagram well formed. -/
structure WellFormed : Prop where
  name : ∃ name, d.name = some name ∧ ∃ c ∈ name.toList, Text.isBlank c = false
  flow : d.flow ∈ [FlowDirection.leftToRight, .rightToLeft, .topToBottom, .bottomToTop]
  directions : ∀ b ∈ d.boxList, ∀ p ∈ b.ports, p.direction = .input ∨ p.direction = .output
  ids : (d.boxList.map Box.id).Nodup
  ends : ∀ edge ∈ d.edges, ∀ e ∈ [edge.source, edge.target], Resolves d.boxList e

/-! ### What the checks report -/

theorem isBlankText_iff {s : String} : Text.isBlankText s = true ↔ ∀ c ∈ s.toList, Text.isBlank c = true := by
  rw [Text.isBlankText, List.all_eq_true]

theorem exists_visible_iff {s : String} :
    (∃ c ∈ s.toList, Text.isBlank c = false) ↔ ¬ ∀ c ∈ s.toList, Text.isBlank c = true := by
  simp

theorem allBoxes_values : d.allBoxes.map Tree.value = d.boxList := by
  rw [boxList, allBoxes, Tree.visit_eq_preorderForest]

theorem nameErrors_reports : Reports NameFault [d.name] d.nameErrors := by
  rw [nameErrors]
  cases d.name with
  | none => exact .faulty .absent .done
  | some name =>
      rw [Option.all_some]
      split
      · rename_i blank
        exact .faulty (.blank (isBlankText_iff.mp blank)) .done
      · rename_i visible
        apply Reports.sound _ .done
        intro e isFault
        cases isFault with
        | blank blank => exact visible (isBlankText_iff.mpr blank)

theorem flowErrors_reports : Reports FlowFault [d.flow] d.flowErrors := by
  rw [flowErrors]
  cases d.flow with
  | unknown word => exact .faulty (.unknown word) .done
  | leftToRight | rightToLeft | topToBottom | bottomToTop =>
      apply Reports.sound _ .done
      intro e isFault
      cases isFault

/-- What is reported of a port of a box. -/
def portFault? (q : Box × Port) : Option ValidationError :=
  match q.2.direction with
  | .unknown word => some (.unknownPortDirection q.1.name q.2.id word)
  | _ => none

theorem portErrors_reports : Reports PortFault d.portList (portErrors d.boxList) := by
  have check : portErrors d.boxList = d.portList.filterMap portFault? := by
    rw [portErrors, portList, List.filterMap_flatMap]
    apply List.flatMap_congr
    intro b _
    rw [List.filterMap_map]
    rfl
  rw [check]
  apply Reports.of_check
  rintro ⟨b, p⟩ e
  constructor
  · intro found
    rw [portFault?] at found
    split at found
    · rename_i direction
      cases found
      exact .unknown direction
    · cases found
  · rintro ⟨direction⟩
    rw [portFault?, direction]

/-- The check of ids keeps the first box of every id only.  The induction carries along that this is enough to find the
first one of all earlier boxes with an id. -/
theorem idErrors_reports {seen before : List Box} (boxes : List Box)
    (enough : ∀ id : Identifier, (seen.find? fun a => a.id = id) = before.find? fun a => a.id = id) :
    Reports IdFault (withEarlier before boxes) (idErrors seen boxes) := by
  induction boxes generalizing seen before with
  | nil => exact .done
  | cons b rest ih =>
      rw [withEarlier, idErrors, enough b.id]
      cases found : before.find? fun a => a.id = b.id with
      | some a =>
          obtain ⟨same, early, late, rfl, isFirst⟩ := List.find?_eq_some_iff_append.mp found
          apply Reports.faulty
          · exact .shared (of_decide_eq_true same) fun c mem => by simpa using isFirst c mem
          · apply ih
            intro id
            rw [List.find?_append, enough id]
            by_cases isId : b.id = id
            · rw [← isId, found, Option.some_or]
            · rw [List.find?_singleton, if_neg (by simpa using isId), Option.or_none]
      | none =>
          apply Reports.sound
          · intro e isFault
            cases isFault with
            | shared same _ =>
                have none := List.find?_eq_none.mp found _ (List.mem_append_right _ List.mem_cons_self)
                exact none (decide_eq_true same)
          · apply ih
            intro id
            rw [List.find?_append, List.find?_append, enough id]

/-- Boxes whose id is new and boxes whose id is reported are all boxes. -/
theorem idErrors_length (before boxes : List Box) :
    (idErrors before boxes).length + ((before ++ boxes).map Box.id).toFinset.card =
      boxes.length + (before.map Box.id).toFinset.card := by
  induction boxes generalizing before with
  | nil => rw [idErrors, List.append_nil]; rfl
  | cons b rest ih =>
      rw [idErrors]
      cases found : before.find? fun a => a.id = b.id with
      | some a =>
          have known : b.id ∈ (before.map Box.id).toFinset := by
            rw [List.mem_toFinset]
            exact List.mem_map.mpr ⟨a, List.mem_of_find?_eq_some found, by simpa using List.find?_some found⟩
          have sameIds : ((before ++ b :: rest).map Box.id).toFinset = ((before ++ rest).map Box.id).toFinset := by
            simp only [List.map_append, List.map_cons, List.toFinset_append, List.toFinset_cons]
            rw [Finset.union_insert, Finset.insert_eq_of_mem (Finset.mem_union_left _ known)]
          rw [sameIds, List.length_cons, List.length_cons]
          have rest := ih before
          omega
      | none =>
          have isNew : b.id ∉ (before.map Box.id).toFinset := by
            rw [List.mem_toFinset]
            intro known
            obtain ⟨a, mem, same⟩ := List.mem_map.mp known
            exact List.find?_eq_none.mp found a mem (decide_eq_true same)
          have oneMore : ((before ++ [b]).map Box.id).toFinset.card = (before.map Box.id).toFinset.card + 1 := by
            rw [List.map_append, List.toFinset_append, List.map_singleton, List.toFinset_cons, List.toFinset_nil,
              Finset.union_insert, Finset.union_empty, Finset.card_insert_of_notMem isNew]
          have rest := ih (before ++ [b])
          rw [List.append_assoc, List.singleton_append, oneMore] at rest
          dsimp only
          rw [List.length_cons]
          omega

/-- The index finds the last box with an id. -/
theorem index_get?_eq_some_iff {id : String} {t : Tree Box} :
    (BoxIndex.ofForest d.boxes).get? id = some t ↔ t.value.id.text = id ∧
      ∃ before after, Tree.preorderForest d.boxes = before ++ t :: after ∧ ∀ u ∈ after, u.value.id.text ≠ id := by
  rw [BoxIndex.get?, BoxIndex.ofForest, Tree.visit_eq_preorderForest, List.find?_eq_some_iff_append]
  constructor
  · rintro ⟨same, late, early, split, others⟩
    refine ⟨of_decide_eq_true same, early.reverse, late.reverse, ?_, ?_⟩
    · rw [← List.reverse_reverse (Tree.preorderForest d.boxes), split]
      simp
    · intro u mem
      simpa using others u (List.mem_reverse.mp mem)
  · rintro ⟨same, early, late, split, others⟩
    refine ⟨decide_eq_true same, late.reverse, early.reverse, ?_, ?_⟩
    · rw [split]
      simp
    · intro u mem
      simpa using others u (List.mem_reverse.mp mem)

theorem index_get?_eq_none_iff {e : EdgeEndpoint} :
    (BoxIndex.ofForest d.boxes).get? e.boxId.text = none ↔ ∀ b ∈ d.boxList, b.id ≠ e.boxId := by
  rw [BoxIndex.get?, BoxIndex.ofForest, Tree.visit_eq_preorderForest, List.find?_eq_none, boxList]
  simp only [List.mem_reverse, List.mem_map, decide_eq_true_eq, forall_exists_index, and_imp,
    forall_apply_eq_imp_iff₂]
  exact forall₂_congr fun t _ => not_congr Identifier.text_injective.eq_iff

theorem port?_isNone_iff {b : Box} {portId : String} :
    (b.port? portId).isNone = true ↔ ∀ p ∈ b.ports, p.id ≠ portId := by
  rw [Option.isNone_iff_eq_none, Box.port?, List.find?_eq_none]
  simp

/-- The last box with an id, as a tree and as a box. -/
theorem boxList_split_iff {e : EdgeEndpoint} {b : Box} :
    (∃ t, (BoxIndex.ofForest d.boxes).get? e.boxId.text = some t ∧ t.value = b) ↔ b.id = e.boxId ∧
      ∃ before after, d.boxList = before ++ b :: after ∧ ∀ a ∈ after, a.id ≠ e.boxId := by
  constructor
  · rintro ⟨t, found, rfl⟩
    obtain ⟨same, before, after, split, others⟩ := d.index_get?_eq_some_iff.mp found
    refine ⟨Identifier.text_injective same, before.map Tree.value, after.map Tree.value, ?_, ?_⟩
    · rw [boxList, split, List.map_append, List.map_cons]
    · intro a mem
      obtain ⟨u, isAfter, rfl⟩ := List.mem_map.mp mem
      exact fun sameId => others u isAfter (congrArg Identifier.text sameId)
  · rintro ⟨same, before, after, split, others⟩
    obtain ⟨early, rest, whole, rfl, restIs⟩ := List.map_eq_append_iff.mp split
    obtain ⟨t, late, rfl, rfl, rfl⟩ := List.map_eq_cons_iff.mp restIs
    refine ⟨t, d.index_get?_eq_some_iff.mpr ⟨congrArg Identifier.text same, early, late, whole, ?_⟩, rfl⟩
    intro u isLate sameText
    exact others u.value (List.mem_map_of_mem isLate) (Identifier.text_injective sameText)

theorem endpointProblem?_eq_some_iff {e : EdgeEndpoint} {problem : EndpointProblem} :
    endpointProblem? (.ofForest d.boxes) e = some problem ↔ EndpointFault d.boxList e problem := by
  rw [endpointProblem?]
  by_cases blank : ∀ c ∈ e.boxName.toList, Text.isBlank c = true
  · rw [if_pos (isBlankText_iff.mpr blank)]
    constructor
    · rintro ⟨⟩
      exact .missing blank
    · intro isFault
      cases isFault with
      | missing _ => rfl
      | unknownBox mem visible _ => rw [blank _ mem] at visible; cases visible
      | unknownPort mem visible _ _ _ _ _ => rw [blank _ mem] at visible; cases visible
  · rw [if_neg fun isBlank => blank (isBlankText_iff.mp isBlank)]
    obtain ⟨c, mem, visible⟩ := exists_visible_iff.mpr blank
    cases found : (BoxIndex.ofForest d.boxes).get? e.boxId.text with
    | none =>
        have none := d.index_get?_eq_none_iff.mp found
        constructor
        · rintro ⟨⟩
          exact .unknownBox mem visible none
        · intro isFault
          cases isFault with
          | missing isBlank => exact absurd isBlank blank
          | unknownBox _ _ _ => rfl
          | unknownPort _ _ split same _ _ _ =>
              exact absurd same (none _ (split ▸ List.mem_append_right _ List.mem_cons_self))
    | some t =>
        obtain ⟨same, before, after, split, isLast⟩ := d.boxList_split_iff.mp ⟨t, found, rfl⟩
        have isBox : t.value ∈ d.boxList := split ▸ List.mem_append_right _ List.mem_cons_self
        constructor
        · intro isProblem
          cases named : e.port with
          | none => simp [named] at isProblem
          | some port =>
              simp only [named] at isProblem
              split at isProblem
              · rename_i noPort
                cases isProblem
                exact .unknownPort mem visible split same isLast named (port?_isNone_iff.mp noPort)
              · cases isProblem
        · intro isFault
          cases isFault with
          | missing isBlank => exact absurd isBlank blank
          | unknownBox _ _ none => exact absurd same (none _ isBox)
          | @unknownPort _ _ _ _ _ b split' same' isLast' port named none =>
              obtain ⟨u, found', rfl⟩ := d.boxList_split_iff.mpr ⟨same', _, _, split', isLast'⟩
              obtain rfl := Option.some.inj (found.symm.trans found')
              simp only [named]
              rw [if_pos (port?_isNone_iff.mpr none)]

theorem edgeErrors_reports : Reports (EndFault d.boxList) d.endList d.edgeErrors := by
  have check : d.edgeErrors = d.endList.filterMap fun (i, which, e) =>
      (endpointProblem? (.ofForest d.boxes) e).map (.badEndpoint i which e.display) := by
    rw [edgeErrors, endList, List.filterMap_flatMap]
    rfl
  rw [check]
  apply Reports.of_check
  rintro ⟨i, which, e⟩ fault
  rw [Option.map_eq_some_iff]
  constructor
  · rintro ⟨problem, isProblem, rfl⟩
    exact .bad (d.endpointProblem?_eq_some_iff.mp isProblem)
  · rintro ⟨isFault⟩
    exact ⟨_, d.endpointProblem?_eq_some_iff.mpr isFault, rfl⟩

/-! ### Well-formed diagrams -/

/-- Where no two boxes share an id, an end of an edge has no fault exactly if it resolves: then the last box with an id
is the only one. -/
theorem resolves_iff_no_fault {boxes : List Box} (distinct : (boxes.map Box.id).Nodup) {e : EdgeEndpoint} :
    Resolves boxes e ↔ ∀ problem, ¬ EndpointFault boxes e problem := by
  constructor
  · rintro ⟨visible, b, isBox, sameText, hasPort⟩ problem isFault
    have same : b.id = e.boxId := Identifier.text_injective sameText
    cases isFault with
    | missing blank => exact exists_visible_iff.mp visible blank
    | unknownBox _ _ none => exact none b isBox same
    | @unknownPort _ _ _ _ _ b' split same' _ port named none =>
        have isBox' : b' ∈ boxes := split ▸ List.mem_append_right _ List.mem_cons_self
        obtain rfl := List.inj_on_of_nodup_map distinct isBox isBox' (same.trans same'.symm)
        obtain ⟨p, isPort, samePort⟩ := hasPort port named
        exact none p isPort samePort
  · intro noFault
    have visible : ∃ c ∈ e.boxName.toList, Text.isBlank c = false := by
      rw [exists_visible_iff]
      intro blank
      exact noFault .missing (.missing blank)
    obtain ⟨c, mem, isVisible⟩ := visible
    have isKnown : ∃ b ∈ boxes, b.id = e.boxId := by
      by_contra unknown
      push Not at unknown
      exact noFault _ (.unknownBox mem isVisible unknown)
    obtain ⟨b, isBox, same⟩ := isKnown
    refine ⟨⟨c, mem, isVisible⟩, b, isBox, congrArg Identifier.text same, ?_⟩
    intro port named
    by_contra noPort
    push Not at noPort
    obtain ⟨before, after, rfl⟩ := List.append_of_mem isBox
    have isLast : ∀ a ∈ after, a.id ≠ e.boxId := by
      intro a isAfter sameId
      rw [List.map_append, List.map_cons, List.nodup_append, List.nodup_cons] at distinct
      exact distinct.2.1.1 (List.mem_map.mpr ⟨a, isAfter, sameId.trans same.symm⟩)
    exact noFault _ (.unknownPort mem isVisible rfl same isLast named noPort)

theorem no_nameFault_iff {name : Option String} :
    (∀ e, ¬ NameFault name e) ↔ ∃ text, name = some text ∧ ∃ c ∈ text.toList, Text.isBlank c = false := by
  cases name with
  | none => exact ⟨fun noFault => absurd .absent (noFault _), fun ⟨_, impossible, _⟩ => by cases impossible⟩
  | some text =>
      constructor
      · intro noFault
        exact ⟨text, rfl, exists_visible_iff.mpr fun blank => noFault _ (.blank blank)⟩
      · rintro ⟨_, ⟨⟩, visible⟩ e isFault
        cases isFault with
        | blank blank => exact exists_visible_iff.mp visible blank

theorem no_flowFault_iff {flow : FlowDirection} :
    (∀ e, ¬ FlowFault flow e) ↔ flow ∈ [FlowDirection.leftToRight, .rightToLeft, .topToBottom, .bottomToTop] := by
  cases flow with
  | unknown word =>
      constructor
      · intro noFault
        exact absurd (.unknown word) (noFault _)
      · intro known
        simp at known
  | leftToRight | rightToLeft | topToBottom | bottomToTop =>
      constructor
      · intro _
        simp
      · intro _ e isFault
        cases isFault

theorem no_portFault_iff {b : Box} {p : Port} :
    (∀ e, ¬ PortFault (b, p) e) ↔ p.direction = .input ∨ p.direction = .output := by
  constructor
  · intro noFault
    cases direction : p.direction with
    | input => exact .inl rfl
    | output => exact .inr rfl
    | unknown word => exact absurd (.unknown direction) (noFault _)
  · rintro known e ⟨direction⟩
    rw [direction] at known
    rcases known with known | known <;> cases known

theorem portList_sound_iff :
    (∀ x ∈ d.portList, ∀ e, ¬ PortFault x e) ↔
      ∀ b ∈ d.boxList, ∀ p ∈ b.ports, p.direction = .input ∨ p.direction = .output := by
  simp only [portList, List.mem_flatMap, List.mem_map, forall_exists_index, and_imp]
  constructor
  · intro noFault b isBox p isPort
    exact no_portFault_iff.mp (noFault (b, p) b isBox p isPort rfl)
  · rintro known _ b isBox p isPort rfl
    exact no_portFault_iff.mpr (known b isBox p isPort)

theorem endList_sound_iff (distinct : (d.boxList.map Box.id).Nodup) :
    (∀ x ∈ d.endList, ∀ e, ¬ EndFault d.boxList x e) ↔
      ∀ edge ∈ d.edges, ∀ e ∈ [edge.source, edge.target], Resolves d.boxList e := by
  have atEnd : ∀ {i which e}, (∀ fault, ¬ EndFault d.boxList (i, which, e) fault) ↔ Resolves d.boxList e := by
    intro i which e
    rw [resolves_iff_no_fault distinct]
    constructor
    · intro noFault problem isFault
      exact noFault _ (.bad isFault)
    · rintro noFault _ ⟨isFault⟩
      exact noFault _ isFault
  constructor
  · intro noFault edge isEdge e isEnd
    obtain ⟨i, bound, rfl⟩ := List.getElem_of_mem isEdge
    have position : (d.edges[i], i) ∈ d.edges.zipIdx :=
      List.mem_zipIdx_iff_getElem?.mpr (List.getElem?_eq_getElem bound)
    rcases List.mem_cons.mp isEnd with rfl | isTarget
    · exact atEnd.mp (noFault (i, .source, _) (List.mem_flatMap.mpr ⟨_, position, List.mem_cons_self⟩))
    · rw [List.mem_singleton.mp isTarget]
      have listed : (i, EdgeEnd.target, d.edges[i].target) ∈ d.endList :=
        List.mem_flatMap.mpr ⟨_, position, List.mem_cons_of_mem _ List.mem_cons_self⟩
      exact atEnd.mp (noFault _ listed)
  · rintro resolves ⟨i, which, e⟩ listed
    obtain ⟨⟨edge, k⟩, position, isEnd⟩ := List.mem_flatMap.mp listed
    have isEdge : edge ∈ d.edges := List.mem_of_getElem? (List.mem_zipIdx_iff_getElem?.mp position)
    rw [atEnd]
    apply resolves edge isEdge
    rcases List.mem_cons.mp isEnd with same | isTarget
    · cases same
      exact List.mem_cons_self
    · cases List.mem_singleton.mp isTarget
      exact List.mem_cons_of_mem _ List.mem_cons_self

theorem validate_parts :
    d.validate = d.nameErrors ++ d.flowErrors ++ portErrors d.boxList ++ idErrors [] d.boxList ++ d.edgeErrors := by
  rw [validate, allBoxes_values]

theorem validate_eq_nil_iff : d.validate = [] ↔ d.WellFormed := by
  have distinct : idErrors [] d.boxList = [] ↔ (d.boxList.map Box.id).Nodup := by
    rw [idErrors_eq_nil_iff]
    exact and_iff_right fun b _ a mem => absurd mem List.not_mem_nil
  rw [validate_parts]
  simp only [List.append_eq_nil_iff]
  rw [d.nameErrors_reports.eq_nil_iff, d.flowErrors_reports.eq_nil_iff, d.portErrors_reports.eq_nil_iff, distinct,
    d.edgeErrors_reports.eq_nil_iff, List.forall_mem_singleton, List.forall_mem_singleton, no_nameFault_iff,
    no_flowFault_iff, portList_sound_iff]
  constructor
  · rintro ⟨⟨⟨⟨name, flow⟩, directions⟩, ids⟩, ends⟩
    exact ⟨name, flow, directions, ids, (d.endList_sound_iff ids).mp ends⟩
  · rintro ⟨name, flow, directions, ids, ends⟩
    exact ⟨⟨⟨⟨name, flow⟩, directions⟩, ids⟩, (d.endList_sound_iff ids).mpr ends⟩

/-! ### Main result -/

/-- The report of a diagram is empty exactly if the diagram is well formed.  In every case it consists of five parts, in
this order: the fault of the name, the fault of the flow, the faults of the ports in the order of the boxes, the boxes
with an id that an earlier box has, and the faults of the ends of edges in the order of the edges.  There are as many
boxes reported for their ids as there are more boxes than ids. -/
theorem validate_reports :
    (d.validate = [] ↔ d.WellFormed) ∧
      ∃ names flows ports ids ends, d.validate = names ++ flows ++ ports ++ ids ++ ends ∧
        (Reports NameFault [d.name] names ∧ names.length ≤ 1) ∧
        (Reports FlowFault [d.flow] flows ∧ flows.length ≤ 1) ∧
        Reports PortFault d.portList ports ∧
        (Reports IdFault (withEarlier [] d.boxList) ids ∧
          ids.length + (d.boxList.map Box.id).toFinset.card = d.boxList.length) ∧
        Reports (EndFault d.boxList) d.endList ends := by
  have names := d.nameErrors_reports
  have flows := d.flowErrors_reports
  have ids := idErrors_reports d.boxList fun id => (rfl : (([] : List Box).find? fun a => a.id = id) = _)
  have count := idErrors_length [] d.boxList
  rw [List.nil_append] at count
  exact ⟨d.validate_eq_nil_iff, _, _, _, _, _, d.validate_parts, ⟨names, names.length_le⟩, ⟨flows, flows.length_le⟩,
    d.portErrors_reports, ⟨ids, count⟩, d.edgeErrors_reports⟩

end Diagram

end BoxDiagram
