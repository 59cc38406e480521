/-
Module: BoxDiagram.Proofs.SpreadPorts
Purpose: The ports of a node are spread along its sides.  The middle of a port is on the side that the port names; the
  middles on one side divide it into equal parts, in the order of the ports; and no two ports have the same middle.
Main exports: placeFrom, PortSide.length, PortSide.along, OnSide, OnSide.side_unique, portShare, PlacedOnSide, centresOn,
  EvenlySpread, placePorts_spread
-/
import BoxDiagram.Layout.Ports
import BoxDiagram.Proofs.ExactNumbers
import Mathlib.Tactic.FieldSimp
import Mathlib.Tactic.Linarith

namespace BoxDiagram

open scoped ExactNumbers

-- The operations of a field are found as its own, and not again through the interface.
attribute [-instance] Scalar.toAdd Scalar.toSub Scalar.toMul Scalar.toDiv Scalar.toNeg Scalar.toLT Scalar.toLE
  Scalar.toOfScientific

/-! ### One port after the other -/

section Order

variable {α : Type} {side : PortSide}

theorem countOnSide_append (side : PortSide) (ports more : List (LayoutPort α)) :
    countOnSide side (ports ++ more) = countOnSide side ports + countOnSide side more :=
  List.countP_append

theorem countOnSide_cons_self (p : LayoutPort α) (rest : List (LayoutPort α)) :
    countOnSide p.side (p :: rest) = countOnSide p.side rest + 1 :=
  List.countP_cons_of_pos (by simp)

theorem countOnSide_cons_of_ne {p : LayoutPort α} (differ : p.side ≠ side) (rest : List (LayoutPort α)) :
    countOnSide side (p :: rest) = countOnSide side rest :=
  List.countP_cons_of_neg (by simpa using differ)

/-- The ports `rest` of a node with the ports `all`, placed one after the other behind the ports `earlier`. -/
def placeFrom [Scalar α] (all : List (LayoutPort α)) (size : Size α) :
    List (LayoutPort α) → List (LayoutPort α) → List (PositionedPort α)
  | _, [] => []
  | earlier, p :: rest => placePort all earlier size p :: placeFrom all size (earlier ++ [p]) rest

theorem placePorts_eq [Scalar α] (ports : List (LayoutPort α)) (size : Size α) :
    placePorts ports size = placeFrom ports size [] ports := by
  have behind : ∀ earlier rest : List (LayoutPort α),
      (rest.zipIdx earlier.length).map (fun e => placePort ports ((earlier ++ rest).take e.2) size e.1) =
        placeFrom ports size earlier rest := by
    intro earlier rest
    induction rest generalizing earlier with
    | nil => rfl
    | cons p rest ih =>
        have later := ih (earlier ++ [p])
        rw [List.length_append, List.length_singleton, List.append_assoc, List.singleton_append] at later
        rw [List.zipIdx_cons, List.map_cons, later, placeFrom]
        dsimp only
        rw [List.take_left]
  exact behind [] ports

end Order

/-! ### The sides of a node -/

section Sides

variable {K : Type} [Field K] [LinearOrder K] {side : PortSide} {size : Size K} {p : Point K}

namespace PortSide

/-- The length of a side of a node of this size. -/
def length (side : PortSide) (size : Size K) : K :=
  match side with
  | .north | .south => size.width
  | .west | .east => size.height

/-- How far a point is along a side, from the left or from the top. -/
def along (side : PortSide) (p : Point K) : K :=
  match side with
  | .north | .south => p.x
  | .west | .east => p.y

/-- The coordinate of a point that all points of a side share. -/
def across (side : PortSide) (p : Point K) : K :=
  match side with
  | .north | .south => p.y
  | .west | .east => p.x

/-- Where a side is across: at the corner from which the node is measured, or as far from it as the node extends. -/
def offset (side : PortSide) (size : Size K) : K :=
  match side with
  | .north | .west => 0
  | .south => size.height
  | .east => size.width

theorem length_pos (wide : 0 < size.width) (high : 0 < size.height) (side : PortSide) : 0 < side.length size := by
  cases side
  · exact wide
  · exact wide
  · exact high
  · exact high

end PortSide

/-- The point is on a side of a node of this size, strictly between the corners. -/
structure OnSide (side : PortSide) (size : Size K) (p : Point K) : Prop where
  across : side.across p = side.offset size
  behind : 0 < side.along p
  ahead : side.along p < side.length size

theorem along_portCenter (side : PortSide) (size : Size K) (share : K) :
    side.along (portCenter side size share) = side.length size * share := by
  cases side <;> rfl

variable [IsStrictOrderedRing K]

/-- Strictly between its corners, a side has no point of another side. -/
theorem OnSide.side_unique {other : PortSide} (wide : 0 < size.width) (high : 0 < size.height)
    (here : OnSide side size p) (there : OnSide other size p) : side = other := by
  obtain ⟨across, behind, ahead⟩ := here
  obtain ⟨across', behind', ahead'⟩ := there
  -- On two different sides, a point would be at a corner, or on both of two opposite sides.
  cases side <;> cases other
  all_goals first
    | rfl
    | exfalso
      simp only [PortSide.across, PortSide.offset, PortSide.along, PortSide.length] at *
      linarith

theorem across_portCenter (side : PortSide) (size : Size K) (share : K) :
    side.across (portCenter side size share) = side.offset size := by
  cases side
  · exact ExactNumbers.zero_eq
  · rfl
  · rfl
  · exact ExactNumbers.zero_eq

/-- A share between none and all of a side is on the side. -/
theorem portCenter_onSide (wide : 0 < size.width) (high : 0 < size.height) (side : PortSide) {share : K}
    (positive : 0 < share) (belowOne : share < 1) : OnSide side size (portCenter side size share) := by
  have long := side.length_pos wide high
  refine ⟨across_portCenter side size share, ?_, ?_⟩
  · rw [along_portCenter]
    exact mul_pos long positive
  · rw [along_portCenter]
    exact mul_lt_of_lt_one_right long belowOne

end Sides

/-! ### Shares of a side -/

/-- The share of a side at which the port with the number `j` of `count` ports is. -/
def portShare (K : Type) [Field K] (count j : ℕ) : K := ((j + 1 : ℕ) : K) / ((count + 1 : ℕ) : K)

section Shares

variable {K : Type} [Field K]

/-- The shares of neighbours differ by one part. -/
theorem portShare_succ (count j : ℕ) : portShare K count (j + 1) = portShare K count j + 1 / (count + 1) := by
  rw [portShare, portShare, Nat.cast_add_one (j + 1), Nat.cast_add_one count]
  ring

variable [LinearOrder K] [IsStrictOrderedRing K]

theorem portShare_pos (count j : ℕ) : 0 < portShare K count j :=
  div_pos (Nat.cast_pos.mpr j.succ_pos) (Nat.cast_pos.mpr count.succ_pos)

theorem portShare_lt_one {count j : ℕ} (inside : j < count) : portShare K count j < 1 := by
  rw [portShare, div_lt_one (Nat.cast_pos.mpr count.succ_pos), Nat.cast_lt]
  exact Nat.succ_lt_succ inside

theorem portShare_injective (count : ℕ) : Function.Injective (portShare K count) := by
  intro i j same
  have positive : ((count + 1 : ℕ) : K) ≠ 0 := Nat.cast_ne_zero.mpr count.succ_ne_zero
  have numbers := Nat.cast_injective ((div_left_inj' positive).mp same)
  exact Nat.succ_injective numbers

/-- The places divide a length into equal parts: so long is the piece before the first one, between neighbours, and behind
the last one. -/
structure EvenlySpread (length : K) (places : List K) : Prop where
  first : ∀ x, places.head? = some x → x = length / (places.length + 1)
  neighbours : ∀ i x y, places[i]? = some x → places[i + 1]? = some y → y - x = length / (places.length + 1)
  last : ∀ x, places.getLast? = some x → length - x = length / (places.length + 1)

theorem evenlySpread_shares (length : K) (count : ℕ) :
    EvenlySpread length ((List.range count).map fun j => length * portShare K count j) := by
  have parts : ((count : K) + 1) ≠ 0 := Nat.cast_add_one_ne_zero count
  have place : ∀ {j : ℕ} {x : K}, (List.range count)[j]?.map (fun j => length * portShare K count j) = some x →
      j < count ∧ x = length * portShare K count j := by
    intro j x isHere
    obtain ⟨j', found, rfl⟩ := Option.map_eq_some_iff.mp isHere
    obtain ⟨inside, rfl⟩ := List.getElem?_eq_some_iff.mp found
    rw [List.length_range] at inside
    rw [List.getElem_range]
    exact ⟨inside, rfl⟩
  refine ⟨fun x isFirst => ?_, fun i x y isHere isNext => ?_, fun x isLast => ?_⟩
  all_goals rw [List.length_map, List.length_range]
  · rw [List.head?_eq_getElem?, List.getElem?_map] at isFirst
    rw [(place isFirst).2, portShare]
    push_cast
    field_simp
  · rw [List.getElem?_map] at isHere isNext
    rw [(place isHere).2, (place isNext).2, portShare_succ]
    ring
  · rw [List.getLast?_eq_getElem?, List.getElem?_map, List.length_map, List.length_range] at isLast
    obtain ⟨inside, rfl⟩ := place isLast
    rw [portShare, Nat.sub_add_cancel (by omega)]
    push_cast
    field_simp
    ring

end Shares

/-! ### The places of ports -/

section Ports

variable {K : Type} [Field K] [LinearOrder K] {side : PortSide} {size : Size K} {all earlier rest : List (LayoutPort K)}

/-- The middle of a port is where it was put. -/
theorem center_placePort (all earlier : List (LayoutPort K)) (size : Size K) (p : LayoutPort K) :
    (placePort all earlier size p).center =
      portCenter p.side size (portShare K (countOnSide p.side all) (countOnSide p.side earlier)) := by
  rw [placePort, PositionedPort.center]
  exact Point.eq_of_coordinates (sub_add_cancel _ _) (sub_add_cancel _ _)

/-- The middles of the placed ports of a side, in the order of the ports. -/
def centresOn (side : PortSide) (ports : List (LayoutPort K)) (placed : List (PositionedPort K)) : List (Point K) :=
  (ports.zip placed).filterMap fun (p, q) => if p.side = side then some q.center else none

/-- On each side the ports take one share after the other. -/
theorem centresOn_placeFrom (side : PortSide) (all : List (LayoutPort K)) (size : Size K)
    (earlier rest : List (LayoutPort K)) :
    centresOn side rest (placeFrom all size earlier rest) =
      (List.range' (countOnSide side earlier) (countOnSide side rest)).map fun j =>
        portCenter side size (portShare K (countOnSide side all) j) := by
  induction rest generalizing earlier with
  | nil => rfl
  | cons p rest ih =>
      have later := ih (earlier ++ [p])
      rw [centresOn] at later
      rw [centresOn, placeFrom, List.zip_cons_cons, List.filterMap_cons]
      dsimp only
      by_cases here : p.side = side
      · subst here
        rw [if_pos rfl, later, countOnSide_append, countOnSide_cons_self, countOnSide_cons_self, center_placePort,
          List.range'_succ, List.map_cons]
        rfl
      · rw [if_neg here, later, countOnSide_append, countOnSide_cons_of_ne here, countOnSide_cons_of_ne here]
        rfl

/-- A port that is placed behind others takes a share that none of those on its side has taken. -/
theorem exists_share_of_mem_placeFrom {q : PositionedPort K} (mem : q ∈ placeFrom all size earlier rest) :
    ∃ p ∈ rest, ∃ j, countOnSide p.side earlier ≤ j ∧ j < countOnSide p.side (earlier ++ rest) ∧
      q.center = portCenter p.side size (portShare K (countOnSide p.side all) j) := by
  induction rest generalizing earlier with
  | nil => exact absurd mem List.not_mem_nil
  | cons p rest ih =>
      rcases List.mem_cons.mp mem with rfl | isLater
      · refine ⟨p, List.mem_cons_self, countOnSide p.side earlier, le_refl _, ?_, center_placePort _ _ _ _⟩
        rw [countOnSide_append, countOnSide_cons_self]
        omega
      · obtain ⟨p', isPort, j, low, high, center⟩ := ih isLater
        rw [countOnSide_append] at low
        rw [List.append_assoc, List.singleton_append] at high
        exact ⟨p', List.mem_cons_of_mem _ isPort, j, (Nat.le_add_right _ _).trans low, high, center⟩

variable [IsStrictOrderedRing K]

/-- What a placed port has from its port, and where its middle is. -/
structure PlacedOnSide (size : Size K) (p : LayoutPort K) (q : PositionedPort K) : Prop where
  id : q.id = p.id
  width : q.width = p.width
  height : q.height = p.height
  onSide : OnSide p.side size q.center

/-- Every port is on its side, because it is one of those that are counted there. -/
theorem placeFrom_onSide (wide : 0 < size.width) (high : 0 < size.height) (whole : earlier ++ rest = all) :
    List.Forall₂ (PlacedOnSide size) rest (placeFrom all size earlier rest) := by
  induction rest generalizing earlier with
  | nil => exact .nil
  | cons p rest ih =>
      refine .cons ⟨rfl, rfl, rfl, ?_⟩ (ih (by rw [List.append_assoc, List.singleton_append, whole]))
      rw [center_placePort]
      refine portCenter_onSide wide high p.side (portShare_pos _ _) (portShare_lt_one ?_)
      rw [← whole, countOnSide_append, countOnSide_cons_self]
      omega

/-- Shares between none and all of a side are told apart by their points. -/
theorem portCenter_injective (wide : 0 < size.width) (high : 0 < size.height) {other : PortSide} {share share' : K}
    (positive : 0 < share) (belowOne : share < 1) (positive' : 0 < share') (belowOne' : share' < 1)
    (same : portCenter side size share = portCenter other size share') : side = other ∧ share = share' := by
  have here := portCenter_onSide wide high side positive belowOne
  rw [same] at here
  have sameSide := here.side_unique wide high (portCenter_onSide wide high other positive' belowOne')
  subst sameSide
  refine ⟨rfl, mul_left_cancel₀ (side.length_pos wide high).ne' ?_⟩
  rw [← along_portCenter, same, along_portCenter]

/-- No two ports have the same middle.  The induction is on the ports that are still to be placed; each takes a share of
its side, and those that follow take others. -/
theorem centres_nodup (wide : 0 < size.width) (high : 0 < size.height) (whole : earlier ++ rest = all) :
    ((placeFrom all size earlier rest).map PositionedPort.center).Nodup := by
  induction rest generalizing earlier with
  | nil => exact List.nodup_nil
  | cons p rest ih =>
      have wholeLater : (earlier ++ [p]) ++ rest = all := by rw [List.append_assoc, List.singleton_append, whole]
      rw [placeFrom, List.map_cons, List.nodup_cons]
      refine ⟨fun mem => ?_, ih wholeLater⟩
      obtain ⟨q, isLater, same⟩ := List.mem_map.mp mem
      obtain ⟨p', -, j, low, inside, center⟩ := exists_share_of_mem_placeFrom isLater
      rw [wholeLater] at inside
      have insideHere : countOnSide p.side earlier < countOnSide p.side all := by
        rw [← whole, countOnSide_append, countOnSide_cons_self]
        omega
      rw [center, center_placePort] at same
      obtain ⟨sameSide, sameShare⟩ := portCenter_injective wide high (portShare_pos _ _) (portShare_lt_one inside)
        (portShare_pos _ _) (portShare_lt_one insideHere) same
      rw [sameSide] at low sameShare
      have sameNumber := portShare_injective _ sameShare
      rw [countOnSide_append, countOnSide_cons_self] at low
      omega

/-! ### Main result -/

/-- On a node that extends both ways, every port keeps its id and its size and is placed with its middle on its side,
strictly between the corners.  On every side the middles of its ports divide it evenly, from the left or from the top in
the order of the ports, and no two ports of the node have the same middle. -/
theorem placePorts_spread (wide : 0 < size.width) (high : 0 < size.height) (ports : List (LayoutPort K)) :
    List.Forall₂ (PlacedOnSide size) ports (placePorts ports size) ∧
      (∀ side : PortSide, (centresOn side ports (placePorts ports size)).length = countOnSide side ports ∧
        EvenlySpread (side.length size) ((centresOn side ports (placePorts ports size)).map side.along)) ∧
      ((placePorts ports size).map PositionedPort.center).Nodup := by
  rw [placePorts_eq]
  refine ⟨placeFrom_onSide wide high rfl, fun side => ?_, centres_nodup wide high rfl⟩
  have centres := centresOn_placeFrom side ports size [] ports
  have none : countOnSide side ([] : List (LayoutPort K)) = 0 := rfl
  rw [none, ← List.range_eq_range'] at centres
  rw [centres, List.map_map]
  refine ⟨by rw [List.length_map, List.length_range], ?_⟩
  have places : (side.along ∘ fun j => portCenter side size (portShare K (countOnSide side ports) j)) =
      fun j => side.length size * portShare K (countOnSide side ports) j :=
    funext fun j => along_portCenter side size _
  rw [places]
  exact evenlySpread_shares _ _

end Ports

/-- A port of this size on a side. -/
def sidedPort (id : String) (side : PortSide) (width height : ℚ) : LayoutPort ℚ := ⟨id, side, "", width, height, .empty⟩

/-- Ports on three sides in turn, of different sizes. -/
def mixedPorts : List (LayoutPort ℚ) :=
  [sidedPort "a" .north 8 8, sidedPort "b" .west 4 6, sidedPort "c" .north 2 2, sidedPort "d" .east 8 8,
    sidedPort "e" .north 0 10, sidedPort "f" .west 8 8]

theorem mixedPorts_spread :
    0 < (⟨80, 60⟩ : Size ℚ).width ∧ 0 < (⟨80, 60⟩ : Size ℚ).height ∧
      (placePorts mixedPorts ⟨80, 60⟩).map PositionedPort.center =
        [⟨20, 0⟩, ⟨0, 20⟩, ⟨40, 0⟩, ⟨80, 30⟩, ⟨60, 0⟩, ⟨0, 40⟩] ∧
      List.Forall₂ (PlacedOnSide ⟨80, 60⟩) mixedPorts (placePorts mixedPorts ⟨80, 60⟩) ∧
      (∀ side : PortSide,
        (centresOn side mixedPorts (placePorts mixedPorts ⟨80, 60⟩)).length = countOnSide side mixedPorts ∧
          EvenlySpread (side.length ⟨80, 60⟩)
            ((centresOn side mixedPorts (placePorts mixedPorts ⟨80, 60⟩)).map side.along)) ∧
      ((placePorts mixedPorts ⟨80, 60⟩).map PositionedPort.center).Nodup := by
  have wide : 0 < (⟨80, 60⟩ : Size ℚ).width := by norm_num
  have high : 0 < (⟨80, 60⟩ : Size ℚ).height := by norm_num
  have centres : (placePorts mixedPorts ⟨80, 60⟩).map PositionedPort.center =
      [⟨20, 0⟩, ⟨0, 20⟩, ⟨40, 0⟩, ⟨80, 30⟩, ⟨60, 0⟩, ⟨0, 40⟩] := by decide +kernel
  exact ⟨wide, high, centres, placePorts_spread wide high mixedPorts⟩

end BoxDiagram
