/-
Module: BoxDiagram.Colour.Table
Purpose: The table from the colour names of documents to colours.
Main exports: ColourTable, ColourTable.builtin, ColourTable.insert, ColourTable.resolve, ColourTable.paint
-/
import BoxDiagram.Colour.Basic
import BoxDiagram.OrderedMap
import BoxDiagram.Text.Lowercase

namespace BoxDiagram

/-- Colours by name. -/
structure ColourTable where
  colours : OrderedMap Colour
deriving Repr, DecidableEq

namespace ColourTable

/-- The table without names; every look-up reads the name as a colour. -/
def empty : ColourTable := ⟨.empty⟩

/-- Names are looked up without regard to case and to blanks around them. -/
def key (name : String) : String := Text.lowercase (Text.trim name)

/-- Add or replace the colour of a name.  A text that is not a colour leaves the table as it is. -/
def insert [ColourSyntax] (t : ColourTable) (name value : String) : Except Colour.Fault ColourTable :=
  (Colour.parse value).map fun c => ⟨t.colours.insert (key name) c⟩

def size (t : ColourTable) : Nat := t.colours.size

/-- The colour of a name.  A name that is not in the table may be a colour itself. -/
def resolve [ColourSyntax] (t : ColourTable) (name : String) : Option Colour :=
  match t.colours.get? (key name) with
  | some c => some c
  | none => (Colour.parse name).toOption

/-- The names that every document may use. -/
def builtin : ColourTable := ⟨⟨[
  ("brown", ⟨"#8B4513"⟩), ("dark blue", ⟨"#1A5276"⟩), ("blue", ⟨"#2E86C1"⟩), ("green", ⟨"#1E8449"⟩),
  ("purple", ⟨"#7D3C98"⟩), ("grey", ⟨"#999"⟩), ("grey dashed", ⟨"#999"⟩), ("orange", ⟨"#FF9900"⟩),
  ("cyan", ⟨"#00BFFF"⟩), ("red", ⟨"#E74C3C"⟩), ("gold", ⟨"#D4AC0D"⟩), ("light blue", ⟨"#5DADE2"⟩),
  ("snowflake blue", ⟨"#29B5E8"⟩), ("dbt red", ⟨"#FF694B"⟩)]⟩⟩

/-- The colour that a name is painted with: the resolved one, or the name itself when it is unknown. -/
def paint [ColourSyntax] (t : ColourTable) (name : String) : String :=
  match t.resolve name with
  | some c => c.text
  | none => name

theorem paint_eq [ColourSyntax] (t : ColourTable) (name : String) :
    t.paint name = ((t.resolve name).map Colour.text).getD name := by
  rw [paint]
  cases t.resolve name <;> rfl

end ColourTable

end BoxDiagram
