/-
Module: BoxDiagram.OrderedMap
Purpose: Maps from texts that remember the order in which their keys came in.
Main exports: OrderedMap, OrderedMap.get?, OrderedMap.insert, OrderedMap.ofList
-/

namespace BoxDiagram

/-- Keys with values.  `insert` keeps every key once, at the place where it first came in. -/
structure OrderedMap (β : Type) where
  entries : List (String × β)
deriving Repr, DecidableEq, Inhabited

namespace OrderedMap

variable {β : Type}

def empty : OrderedMap β := ⟨[]⟩

/-- Replace the value of a key, or add the key at the end. -/
def put (key : String) (value : β) : List (String × β) → List (String × β)
  | [] => [(key, value)]
  | (k, v) :: rest => if k = key then (key, value) :: rest else (k, v) :: put key value rest

/-- Set the value of a key; a new key goes to the end. -/
def insert (m : OrderedMap β) (key : String) (value : β) : OrderedMap β := ⟨put key value m.entries⟩

def get? (m : OrderedMap β) (key : String) : Option β :=
  (m.entries.find? fun e => e.1 = key).map (·.2)

def size (m : OrderedMap β) : Nat := m.entries.length

/-- Insert the pairs of a list one after the other. -/
def ofList (pairs : List (String × β)) : OrderedMap β :=
  pairs.foldl (fun m e => m.insert e.1 e.2) empty

def keys (m : OrderedMap β) : List String := m.entries.map (·.1)

/-- The values in the order of their keys. -/
def values (m : OrderedMap β) : List β := m.entries.map (·.2)

end OrderedMap

end BoxDiagram
