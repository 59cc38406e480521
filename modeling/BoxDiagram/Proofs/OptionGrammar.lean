/-
Module: BoxDiagram.Proofs.OptionGrammar
Purpose: Which texts are read as sizes and as insets, and as which.  What an option says is told by its parts: what is
  left without blanks, what stands around the first equals sign or comma, and what stands between commas.
Main exports: Text.Padded, Text.Pieces, NumberText.Denotes, DenotesSize, SetsSide, DenotesSettings, Insets.withSettings,
  parseSize?_eq_some_iff, parseInsets?_eq_some_iff, options_readExactly
-/
import BoxDiagram.Proofs.OptionText
import BoxDiagram.Proofs.Paths
import Mathlib.Data.List.Induction
import Mathlib.Data.List.TakeWhile

namespace BoxDiagram

/-! ### Parts of a text -/

namespace Text

variable {sep : Char} {cs inner : List Char} {pieces : List (List Char)}

/-- The list is made of blanks. -/
def Blank (cs : List Char) : Prop := ∀ c ∈ cs, isBlank c = true

/-- A text with nothing but blanks around it.  It begins and ends with other characters, so there is no way to see more or
fewer of the blanks as its own. -/
structure Padded (inner cs : List Char) : Prop where
  around : ∃ before after, Blank before ∧ Blank after ∧ cs = before ++ inner ++ after
  begins : ∀ c ∈ inner.head?, isBlank c = false
  ends : ∀ c ∈ inner.getLast?, isBlank c = false

theorem dropWhile_blank (blank : Blank cs) (rest : List Char) :
    (cs ++ rest).dropWhile isBlank = rest.dropWhile isBlank :=
  List.dropWhile_append_of_pos blank

theorem trimEndList_blank (blank : Blank cs) (before : List Char) : trimEndList (before ++ cs) = trimEndList before := by
  have backwards : Blank cs.reverse := fun c mem => blank c (List.mem_reverse.mp mem)
  rw [trimEndList, List.reverse_append, dropWhile_blank backwards, trimEndList]

theorem Padded.trimList (padded : Padded inner cs) : trimList cs = inner := by
  obtain ⟨before, after, blankBefore, blankAfter, rfl⟩ := padded.around
  have begun : (inner ++ after).dropWhile isBlank = inner ++ after ∨ inner = [] := by
    cases inner with
    | nil => exact .inr rfl
    | cons c rest => exact .inl (dropWhile_of_begins (by simpa using padded.begins))
  rw [Text.trimList, List.append_assoc, dropWhile_blank blankBefore]
  rcases begun with notEmpty | rfl
  · rw [notEmpty, trimEndList_blank blankAfter, trimEndList_of_ends padded.ends]
  · have nothing : after.dropWhile isBlank = [] := List.dropWhile_eq_nil_iff.mpr blankAfter
    rw [List.nil_append, nothing]
    rfl

theorem dropWhile_begins (cs : List Char) : ∀ c ∈ (cs.dropWhile isBlank).head?, isBlank c = false := by
  intro c first
  have stopped := List.head?_dropWhile_not isBlank cs
  rw [Option.mem_def.mp first] at stopped
  exact stopped

theorem trimEndList_append_blanks (cs : List Char) : ∃ blanks, Blank blanks ∧ cs = trimEndList cs ++ blanks := by
  refine ⟨(cs.reverse.takeWhile isBlank).reverse, fun c mem => List.mem_takeWhile_imp (List.mem_reverse.mp mem), ?_⟩
  rw [trimEndList, ← List.reverse_append, List.takeWhile_append_dropWhile, List.reverse_reverse]

theorem padded_trimList (cs : List Char) : Padded (Text.trimList cs) cs where
  around := by
    obtain ⟨after, blankAfter, ended⟩ := trimEndList_append_blanks (cs.dropWhile isBlank)
    refine ⟨cs.takeWhile isBlank, after, fun c mem => List.mem_takeWhile_imp mem, blankAfter, ?_⟩
    rw [Text.trimList, List.append_assoc, ← ended, List.takeWhile_append_dropWhile]
  begins := by
    intro c first
    obtain ⟨after, -, ended⟩ := trimEndList_append_blanks (cs.dropWhile isBlank)
    have first : (trimEndList (cs.dropWhile isBlank)).head? = some c := first
    apply dropWhile_begins cs
    rw [ended, List.head?_append, first]
    rfl
  ends := by
    rw [Text.trimList, trimEndList, List.getLast?_reverse]
    exact dropWhile_begins _

/-- A text without the blanks around it is what they are around. -/
theorem trimList_eq_iff : Text.trimList cs = inner ↔ Padded inner cs :=
  ⟨fun trimmed => trimmed ▸ padded_trimList cs, Padded.trimList⟩

/-- A text is cut at a separator that does not occur before it. -/
theorem splitFirstList?_eq_some_iff {before after : List Char} :
    splitFirstList? sep cs = some (before, after) ↔ cs = before ++ sep :: after ∧ sep ∉ before := by
  constructor
  · intro split
    induction cs generalizing before with
    | nil => cases split
    | cons c rest ih =>
        rw [splitFirstList?] at split
        split at split
        · case isTrue here =>
          cases split
          exact ⟨by rw [here, List.nil_append], List.not_mem_nil⟩
        · case isFalse other =>
          obtain ⟨⟨before', after'⟩, later, same⟩ := Option.map_eq_some_iff.mp split
          cases same
          obtain ⟨parts, absent⟩ := ih later
          exact ⟨by rw [parts, List.cons_append], by simp [absent, Ne.symm other]⟩
  · rintro ⟨rfl, absent⟩
    exact splitFirstList?_append absent after

/-- The pieces of a text between separators. -/
inductive Pieces (sep : Char) : List Char → List (List Char) → Prop where
  | last {piece : List Char} (absent : sep ∉ piece) : Pieces sep piece [piece]
  | cut {piece cs : List Char} {pieces : List (List Char)} (absent : sep ∉ piece) (rest : Pieces sep cs pieces) :
      Pieces sep (piece ++ sep :: cs) (piece :: pieces)

theorem Pieces.splitList (cutUp : Pieces sep cs pieces) : splitList sep cs = pieces := by
  induction cutUp with
  | last absent => exact splitList_singleton absent
  | cut absent _ ih => rw [splitList_append absent, ih]

theorem pieces_splitList (sep : Char) (cs : List Char) : Pieces sep cs (Text.splitList sep cs) := by
  induction cs with
  | nil => exact .last List.not_mem_nil
  | cons c rest ih =>
      rw [Text.splitList]
      split
      · case isTrue here =>
        subst here
        exact .cut List.not_mem_nil ih
      · case isFalse other =>
        -- the character goes to the first piece of the rest
        generalize Text.splitList sep rest = pieces at ih
        cases ih with
        | last absent => exact .last (by simp [absent, Ne.symm other])
        | @cut piece _ _ absent others =>
            have absent : sep ∉ c :: piece := by simp [absent, Ne.symm other]
            exact .cut absent others

theorem splitList_eq_iff : Text.splitList sep cs = pieces ↔ Pieces sep cs pieces :=
  ⟨fun cutUp => cutUp ▸ pieces_splitList sep cs, Pieces.splitList⟩

end Text

/-- A text is enclosed if it stands between the two characters, with blanks around them. -/
theorem enclosed?_eq_some_iff {opening closing : Char} {text : String} {inner : List Char} :
    enclosed? opening closing text = some inner ↔ Text.Padded (opening :: inner ++ [closing]) text.toList := by
  rw [← Text.trimList_eq_iff, enclosed?]
  cases Text.trimList text.toList with
  | nil => simp
  | cons c rest =>
      cases rest using List.reverseRecOn with
      | nil => simp
      | append_singleton middle d => simp [and_comm, eq_comm]

/-! ### Settings of sides -/

section Settings

variable {α : Type}

/-- The sides that insets have. -/
def insetSides : List String := ["top", "right", "bottom", "left"]

/-- The last setting of a side counts; a side that is not set keeps what it has. -/
def Insets.withSettings (i : Insets α) (settings : List (String × α)) : Insets α where
  top := (lastValue? "top" settings).getD i.top
  right := (lastValue? "right" settings).getD i.right
  bottom := (lastValue? "bottom" settings).getD i.bottom
  left := (lastValue? "left" settings).getD i.left

theorem Insets.set?_eq_some_iff {i j : Insets α} {side : String} {x : α} :
    i.set? side x = some j ↔ side ∈ insetSides ∧ i.withSettings [(side, x)] = j := by
  unfold Insets.set?
  split
  case h_5 notTop notRight notBottom notLeft =>
    have noSide : side ∉ insetSides := by simpa [insetSides] using ⟨notTop, notRight, notBottom, notLeft⟩
    simp [noSide]
  all_goals simp [insetSides, Insets.withSettings, lastValue?]

theorem Insets.withSettings_cons (i : Insets α) (e : String × α) (settings : List (String × α)) :
    (i.withSettings [e]).withSettings settings = i.withSettings (e :: settings) := by
  have later (side : String) (x : α) : (lastValue? side settings).getD ((lastValue? side [e]).getD x) =
      (lastValue? side (e :: settings)).getD x := by
    have first : e :: settings = [e] ++ settings := rfl
    rw [first, lastValue?_append]
    cases lastValue? side settings <;> rfl
  simp only [Insets.withSettings, later]

end Settings

/-! ### Numbers -/

section Numbers

variable {α : Type} [NumberText α]

/-- A text denotes a number if this is what it is read as without the blanks around it. -/
def NumberText.Denotes (cs : List Char) (x : α) : Prop :=
  ∃ numeral, Text.Padded numeral cs ∧ NumberText.read? (String.ofList numeral) = some x

theorem readTrimmed?_eq_some_iff {cs : List Char} {x : α} :
    readTrimmed? cs = some x ↔ NumberText.Denotes cs x := by
  constructor
  · intro isRead
    exact ⟨_, Text.padded_trimList cs, isRead⟩
  · rintro ⟨numeral, padded, isRead⟩
    rwa [readTrimmed?, padded.trimList]

/-! ### Sizes -/

/-- A size stands in parentheses: the width before the first comma, and the height after it. -/
def DenotesSize (text : String) (s : Size α) : Prop :=
  ∃ width height, Text.Padded ('(' :: (width ++ ',' :: height) ++ [')']) text.toList ∧ ',' ∉ width ∧
    NumberText.Denotes width s.width ∧ NumberText.Denotes height s.height

theorem parseSize?_eq_some_iff {text : String} {s : Size α} : parseSize? text = some s ↔ DenotesSize text s := by
  simp only [parseSize?, Option.bind_eq_bind, Option.bind_eq_some_iff, Option.pure_def, Option.some.injEq]
  constructor
  · rintro ⟨inner, isEnclosed, ⟨width, height⟩, isCut, x, isWidth, y, isHeight, rfl⟩
    obtain ⟨rfl, absent⟩ := Text.splitFirstList?_eq_some_iff.mp isCut
    exact ⟨width, height, enclosed?_eq_some_iff.mp isEnclosed, absent, readTrimmed?_eq_some_iff.mp isWidth,
      readTrimmed?_eq_some_iff.mp isHeight⟩
  · rintro ⟨width, height, padded, absent, isWidth, isHeight⟩
    exact ⟨_, enclosed?_eq_some_iff.mpr padded, (width, height), Text.splitFirstList?_append absent height, s.width,
      readTrimmed?_eq_some_iff.mpr isWidth, s.height, readTrimmed?_eq_some_iff.mpr isHeight, rfl⟩

/-! ### Insets -/

/-- An entry sets a side to a number: before its first equals sign stands the name of the side, and after it the number,
with blanks around both. -/
def SetsSide (entry : List Char) (setting : String × α) : Prop :=
  ∃ name number, entry = name ++ '=' :: number ∧ '=' ∉ name ∧ Text.Padded setting.1.toList name ∧
    setting.1 ∈ insetSides ∧ NumberText.Denotes number setting.2

/-- A text denotes settings of sides, in brackets and with commas between them.  Entries of blanks set nothing. -/
def DenotesSettings (text : String) (settings : List (String × α)) : Prop :=
  ∃ body entries, Text.Padded ('[' :: body ++ [']']) text.toList ∧ Text.Pieces ',' body entries ∧
    List.Forall₂ SetsSide (entries.filter fun entry => !entry.all Text.isBlank) settings

theorem setsSide_iff {entry : List Char} {setting : String × α} :
    SetsSide entry setting ↔ ∃ name number, Text.splitFirstList? '=' entry = some (name, number) ∧
      Text.trimList name = setting.1.toList ∧ setting.1 ∈ insetSides ∧ readTrimmed? number = some setting.2 := by
  simp only [SetsSide, Text.splitFirstList?_eq_some_iff, Text.trimList_eq_iff, readTrimmed?_eq_some_iff, and_assoc]

theorem denotesSettings_iff {text : String} {settings : List (String × α)} :
    DenotesSettings text settings ↔ ∃ body, enclosed? '[' ']' text = some body ∧
      List.Forall₂ SetsSide ((Text.splitList ',' body).filter fun entry => !entry.all Text.isBlank) settings := by
  simp only [DenotesSettings, enclosed?_eq_some_iff, ← Text.splitList_eq_iff, exists_and_left, exists_eq_left']

instance [DecidableEq α] (entry : List Char) (setting : String × α) : Decidable (SetsSide entry setting) :=
  decidable_of_iff
    (∃ parts ∈ Text.splitFirstList? '=' entry,
      Text.trimList parts.1 = setting.1.toList ∧ setting.1 ∈ insetSides ∧ readTrimmed? parts.2 = some setting.2)
    (by simp only [setsSide_iff, Option.mem_def, Prod.exists])

instance [DecidableEq α] (text : String) (settings : List (String × α)) : Decidable (DenotesSettings text settings) :=
  decidable_of_iff
    (∃ body ∈ enclosed? '[' ']' text,
      List.Forall₂ SetsSide ((Text.splitList ',' body).filter fun entry => !entry.all Text.isBlank) settings)
    denotesSettings_iff.symm

theorem readInset?_blank {entry : List Char} (blank : entry.all Text.isBlank = true) (i : Insets α) :
    readInset? i entry = some i := by
  rw [readInset?, if_pos blank]

theorem readInset?_eq_some_iff {entry : List Char} (notBlank : entry.all Text.isBlank = false) {i j : Insets α} :
    readInset? i entry = some j ↔ ∃ setting, SetsSide entry setting ∧ i.withSettings [setting] = j := by
  rw [readInset?, if_neg (Bool.eq_false_iff.mp notBlank)]
  simp only [Option.bind_eq_bind, Option.bind_eq_some_iff, Insets.set?_eq_some_iff, setsSide_iff]
  constructor
  · rintro ⟨⟨name, number⟩, isCut, x, isRead, isSide, rfl⟩
    exact ⟨(String.ofList (Text.trimList name), x), ⟨name, number, isCut, String.toList_ofList.symm, isSide, isRead⟩, rfl⟩
  · rintro ⟨⟨side, x⟩, ⟨name, number, isCut, trimmed, isSide, isRead⟩, rfl⟩
    refine ⟨(name, number), isCut, x, isRead, ?_⟩
    rw [trimmed, String.ofList_toList]
    exact ⟨isSide, rfl⟩

/-- Entries are read one after the other, each of them into the insets that the ones before it have left. -/
theorem foldlM_readInset?_eq_some_iff {entries : List (List Char)} {i j : Insets α} :
    entries.foldlM readInset? i = some j ↔
      ∃ settings, List.Forall₂ SetsSide (entries.filter fun entry => !entry.all Text.isBlank) settings ∧
        i.withSettings settings = j := by
  induction entries generalizing i with
  | nil => simp [Insets.withSettings, lastValue?]
  | cons entry rest ih =>
      rw [List.foldlM_cons, Option.bind_eq_bind]
      cases blank : entry.all Text.isBlank with
      | true => simp only [readInset?_blank blank, Option.bind_some, ih, List.filter_cons, blank, Bool.not_true,
          Bool.false_eq_true, if_false]
      | false =>
          simp only [Option.bind_eq_some_iff, readInset?_eq_some_iff blank, ih, List.filter_cons, blank, Bool.not_false,
            if_true, List.forall₂_cons_left_iff]
          constructor
          · rintro ⟨_, ⟨setting, sets, rfl⟩, settings, later, rfl⟩
            exact ⟨setting :: settings, ⟨setting, settings, sets, later, rfl⟩, (i.withSettings_cons setting settings).symm⟩
          · rintro ⟨_, ⟨setting, settings, sets, later, rfl⟩, rfl⟩
            exact ⟨_, ⟨setting, sets, rfl⟩, settings, later, i.withSettings_cons setting settings⟩

/-- A text is read as the insets in which its settings are made, where no side is set to begin with. -/
theorem parseInsets?_eq_some_iff [Scalar α] {text : String} {i : Insets α} :
    parseInsets? text = some i ↔
      ∃ settings, DenotesSettings text settings ∧ Insets.zero.withSettings settings = i := by
  rw [parseInsets?, Option.bind_eq_bind, Option.bind_eq_some_iff]
  simp only [foldlM_readInset?_eq_some_iff, denotesSettings_iff]
  constructor
  · rintro ⟨body, isEnclosed, settings, made, result⟩
    exact ⟨settings, ⟨body, isEnclosed, made⟩, result⟩
  · rintro ⟨settings, ⟨body, isEnclosed, made⟩, result⟩
    exact ⟨body, isEnclosed, settings, made, result⟩

end Numbers

/-! ### Main result -/

/-- Insets are read from a text exactly if it denotes settings, and of these only the last one for each side counts; a size
is read exactly if the text denotes it.  Insets and sizes are read back from the texts as which they are written, if their
numbers are. -/
theorem options_readExactly (α : Type) [Scalar α] [NumberText α] :
    (∀ (text : String) (i : Insets α), parseInsets? text = some i ↔
      ∃ settings, DenotesSettings text settings ∧ Insets.zero.withSettings settings = i) ∧
    (∀ (text text' : String) (settings settings' : List (String × α)),
      DenotesSettings text settings → DenotesSettings text' settings' →
        (∀ side ∈ insetSides, lastValue? side settings = lastValue? side settings') →
          (parseInsets? text : Option (Insets α)) = parseInsets? text') ∧
    (∀ (text : String) (s : Size α), parseSize? text = some s ↔ DenotesSize text s) ∧
    (∀ i : Insets α, NumberText.Lossless i.top → NumberText.Lossless i.right → NumberText.Lossless i.bottom →
      NumberText.Lossless i.left → parseInsets? (insetsText i) = some i) ∧
    ∀ s : Size α, NumberText.Lossless s.width → NumberText.Lossless s.height → parseSize? (sizeText s) = some s := by
  refine ⟨fun _ _ => parseInsets?_eq_some_iff, ?_, fun _ _ => parseSize?_eq_some_iff, fun _ => parseInsets?_insetsText,
    fun _ => parseSize?_sizeText⟩
  intro text text' settings settings' denotes denotes' sameLast
  have sameInsets : (Insets.zero : Insets α).withSettings settings = Insets.zero.withSettings settings' := by
    simp only [insetSides, List.forall_mem_cons] at sameLast
    obtain ⟨top, right, bottom, left, -⟩ := sameLast
    simp only [Insets.withSettings, top, right, bottom, left]
  rw [parseInsets?_eq_some_iff.mpr ⟨settings, denotes, rfl⟩, sameInsets,
    parseInsets?_eq_some_iff.mpr ⟨settings', denotes', rfl⟩]

/-- Insets as a person may write them, with the left side set twice. -/
def looseInsets : String := " [left = 3,, top=1 , left=.5 ]\n"

/-- What `looseInsets` denotes. -/
def looseSettings : List (String × Float32) := [("left", 3.0), ("top", 1.0), ("left", 0.5)]

/-- Insets with numbers that are no whole ones. -/
def unevenInsets : Insets Float32 := ⟨70.0, 0.1, 60.0, 24.5⟩

/-- A size with numbers that are no whole ones. -/
def unevenSize : Size Float32 := ⟨0.1, 24.5⟩

/-- Blanks, empty entries and an earlier entry for the same side make no difference, and there is no fifth side. -/
theorem looseOptions_readExactly :
    DenotesSettings looseInsets looseSettings ∧
    parseInsets? looseInsets = some (⟨1.0, 0.0, 0.0, 0.5⟩ : Insets Float32) ∧
    (parseInsets? looseInsets : Option (Insets Float32)) = parseInsets? "[top=1,left=.5]" ∧
    (∀ settings : List (String × Float32), ¬ DenotesSettings "[middle=3]" settings) ∧
    DenotesSize "( 150,4.5e1)" (⟨150.0, 45.0⟩ : Size Float32) ∧
    parseInsets? (insetsText unevenInsets) = some unevenInsets ∧
    parseSize? (sizeText unevenSize) = some unevenSize := by
  obtain ⟨insets, sameLast, sizes, writtenInsets, writtenSizes⟩ := options_readExactly Float32
  have denotes : DenotesSettings looseInsets looseSettings := by decide +kernel
  have tidy : DenotesSettings "[top=1,left=.5]" [("top", (1.0 : Float32)), ("left", 0.5)] := by decide +kernel
  refine ⟨denotes, (insets _ _).mpr ⟨looseSettings, denotes, by decide +kernel⟩,
    sameLast _ _ _ _ denotes tidy (by decide +kernel), ?_, (sizes _ _).mp (by decide +kernel), ?_, ?_⟩
  · intro settings denotes
    have unread : (parseInsets? "[middle=3]" : Option (Insets Float32)) = none := by decide +kernel
    rw [(insets _ _).mpr ⟨settings, denotes, rfl⟩] at unread
    cases unread
  · exact writtenInsets _ (by decide +kernel) (by decide +kernel) (by decide +kernel) (by decide +kernel)
  · exact writtenSizes _ (by decide +kernel) (by decide +kernel)

end BoxDiagram
