/-
Module: BoxDiagram.Proofs.OptionText
Purpose: Sizes and insets written as option values are read back as they were, if their numbers are.
Main exports: NumberText.Lossless, Text.splitFirstList?_append, Text.splitList_append, parseSize?_sizeText,
  parseInsets?_insetsText
-/
import BoxDiagram.Layout.Options

namespace BoxDiagram

/-! ### Cutting texts -/

namespace Text

variable {sep : Char} {cs : List Char}

/-- The list holds no blanks. -/
def NoBlanks (cs : List Char) : Prop := ∀ c ∈ cs, isBlank c = false

-- The instance is named because a search may also find the one that goes through all characters there are.
instance (cs : List Char) : Decidable (NoBlanks cs) := List.decidableBAll _ cs

/-- There is nothing to drop from a list without a blank in front. -/
theorem dropWhile_of_begins (begins : ∀ c ∈ cs.head?, isBlank c = false) : cs.dropWhile isBlank = cs := by
  cases cs with
  | nil => rfl
  | cons c rest => simp [begins c rfl]

theorem trimEndList_of_ends (ends : ∀ c ∈ cs.getLast?, isBlank c = false) : trimEndList cs = cs := by
  rw [trimEndList, dropWhile_of_begins (by simpa using ends), List.reverse_reverse]

theorem trimList_of_ends (begins : ∀ c ∈ cs.head?, isBlank c = false) (ends : ∀ c ∈ cs.getLast?, isBlank c = false) :
    trimList cs = cs := by
  rw [trimList, dropWhile_of_begins begins, trimEndList_of_ends ends]

theorem trimList_eq (plain : NoBlanks cs) : trimList cs = cs :=
  trimList_of_ends (fun c first => plain c (List.mem_of_mem_head? first))
    fun c last => plain c (List.mem_of_mem_getLast? last)

/-- A text is cut at the first separator. -/
theorem splitFirstList?_append (absent : sep ∉ cs) (rest : List Char) :
    splitFirstList? sep (cs ++ sep :: rest) = some (cs, rest) := by
  induction cs with
  | nil => rw [List.nil_append, splitFirstList?, if_pos rfl]
  | cons c cs ih =>
      rw [List.mem_cons, not_or] at absent
      obtain ⟨other, absentRest⟩ := absent
      rw [List.cons_append, splitFirstList?, if_neg (Ne.symm other), ih absentRest, Option.map_some]

theorem splitList_singleton (absent : sep ∉ cs) : splitList sep cs = [cs] := by
  induction cs with
  | nil => rw [splitList]
  | cons c cs ih =>
      rw [List.mem_cons, not_or] at absent
      obtain ⟨other, absentRest⟩ := absent
      rw [splitList, if_neg (Ne.symm other), ih absentRest]

/-- What is before the first separator is the first piece. -/
theorem splitList_append (absent : sep ∉ cs) (rest : List Char) :
    splitList sep (cs ++ sep :: rest) = cs :: splitList sep rest := by
  induction cs with
  | nil => rw [List.nil_append, splitList, if_pos rfl]
  | cons c cs ih =>
      rw [List.mem_cons, not_or] at absent
      obtain ⟨other, absentRest⟩ := absent
      rw [List.cons_append, splitList, if_neg (Ne.symm other), ih absentRest]

end Text

/-- What stands between the first and the last character of a text. -/
theorem enclosed?_eq {opening closing : Char} (opens : Text.isBlank opening = false)
    (closes : Text.isBlank closing = false) {text : String} {inner : List Char}
    (spelled : text.toList = opening :: inner ++ [closing]) : enclosed? opening closing text = some inner := by
  have trimmed : Text.trimList (opening :: inner ++ [closing]) = opening :: (inner ++ [closing]) :=
    Text.trimList_of_ends (by simpa using opens) (by simpa [List.getLast?_cons] using closes)
  rw [enclosed?, spelled, trimmed]
  dsimp only
  rw [if_pos rfl, List.reverse_append, List.reverse_singleton, List.singleton_append]
  dsimp only
  rw [if_pos rfl, List.reverse_reverse]

/-! ### Numbers -/

variable {α : Type} [NumberText α]

/-- The number is read back from its text, and the text holds nothing that has a meaning in an option value. -/
structure NumberText.Lossless (x : α) : Prop where
  readBack : NumberText.read? (NumberText.print x) = some x
  noBlanks : Text.NoBlanks (NumberText.print x).toList
  noComma : ',' ∉ (NumberText.print x).toList
  noEquals : '=' ∉ (NumberText.print x).toList

instance [DecidableEq α] (x : α) : Decidable (NumberText.Lossless x) :=
  decidable_of_iff (NumberText.read? (NumberText.print x) = some x ∧ Text.NoBlanks (NumberText.print x).toList ∧
      ',' ∉ (NumberText.print x).toList ∧ '=' ∉ (NumberText.print x).toList)
    ⟨fun ⟨readBack, noBlanks, noComma, noEquals⟩ => ⟨readBack, noBlanks, noComma, noEquals⟩,
      fun ⟨readBack, noBlanks, noComma, noEquals⟩ => ⟨readBack, noBlanks, noComma, noEquals⟩⟩

open NumberText

variable {x : α}

theorem readTrimmed?_print (lossless : Lossless x) : readTrimmed? (print x).toList = some x := by
  rw [readTrimmed?, Text.trimList_eq lossless.noBlanks, String.ofList_toList, lossless.readBack]

/-! ### Sizes -/

/-- A size is read as it was written. -/
theorem parseSize?_sizeText {s : Size α} (width : Lossless s.width) (height : Lossless s.height) :
    parseSize? (sizeText s) = some s := by
  have spelled : (sizeText s).toList = '(' :: ((print s.width).toList ++ ',' :: (print s.height).toList) ++ [')'] := by
    simp [sizeText]
  rw [parseSize?, enclosed?_eq (by decide) (by decide) spelled, Option.bind_eq_bind, Option.bind_some,
    Text.splitFirstList?_append width.noComma]
  simp [readTrimmed?_print width, readTrimmed?_print height]

/-! ### Insets -/

/-- An entry for one side of insets. -/
def insetEntry (side : String) (x : α) : List Char := side.toList ++ '=' :: (print x).toList

theorem comma_notMem_insetEntry {side : String} (absent : ',' ∉ side.toList) (lossless : Lossless x) :
    ',' ∉ insetEntry side x := by
  simp [insetEntry, absent, lossless.noComma]

/-- An entry sets its side, or fails if there is no such side. -/
theorem readInset?_insetEntry (side : String) (plain : Text.NoBlanks side.toList) (absent : '=' ∉ side.toList)
    (lossless : Lossless x) (i : Insets α) : readInset? i (insetEntry side x) = i.set? side x := by
  have notBlank : (insetEntry side x).all Text.isBlank = false := by
    refine List.all_eq_false.mpr ⟨'=', List.mem_append_right _ List.mem_cons_self, ?_⟩
    decide
  rw [readInset?, if_neg (Bool.eq_false_iff.mp notBlank), insetEntry, Text.splitFirstList?_append absent]
  simp [readTrimmed?_print lossless, Text.trimList_eq plain]

/-- Insets are read as they were written. -/
theorem parseInsets?_insetsText [Scalar α] {i : Insets α} (top : Lossless i.top) (right : Lossless i.right)
    (bottom : Lossless i.bottom) (left : Lossless i.left) : parseInsets? (insetsText i) = some i := by
  have spelled : (insetsText i).toList = '[' :: (insetEntry "top" i.top ++ ',' :: (insetEntry "left" i.left ++
      ',' :: (insetEntry "bottom" i.bottom ++ ',' :: insetEntry "right" i.right))) ++ [']'] := by
    simp [insetsText, insetEntry]
  rw [parseInsets?, enclosed?_eq (by decide) (by decide) spelled, Option.bind_eq_bind, Option.bind_some,
    Text.splitList_append (comma_notMem_insetEntry (by decide) top),
    Text.splitList_append (comma_notMem_insetEntry (by decide) left),
    Text.splitList_append (comma_notMem_insetEntry (by decide) bottom),
    Text.splitList_singleton (comma_notMem_insetEntry (by decide) right)]
  simp only [List.foldlM_cons, List.foldlM_nil, readInset?_insetEntry "top" (by decide) (by decide) top,
    readInset?_insetEntry "left" (by decide) (by decide) left,
    readInset?_insetEntry "bottom" (by decide) (by decide) bottom,
    readInset?_insetEntry "right" (by decide) (by decide) right]
  rfl

end BoxDiagram
