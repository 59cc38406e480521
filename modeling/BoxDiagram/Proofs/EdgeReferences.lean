/-
Module: BoxDiagram.Proofs.EdgeReferences
Purpose: The references by which edges name their ends are written as they are read, and the other way round.
Main exports: Text.splitLast?_eq_some_iff, EdgeEndpoint.Readable, EdgeEndpoint.parse_eq_iff, EdgeEndpoint.parse_and_display
-/
import BoxDiagram.Diagram.Edge

namespace BoxDiagram

/-! ### Cutting at the last separator -/

namespace Text

variable {sep : Char} {cs before after : List Char}

theorem splitLastList?_eq_none_iff : splitLastList? sep cs = none ↔ sep ∉ cs := by
  induction cs with
  | nil => simp [splitLastList?]
  | cons c cs ih =>
      cases found : splitLastList? sep cs with
      | none =>
          have absent : sep ∉ cs := ih.mp found
          simp [splitLastList?, found, absent, eq_comm]
      | some parts => simp [splitLastList?, found, ← ih]

/-- The separator at which a list is cut is the one that no other follows. -/
theorem splitLastList?_append (absent : sep ∉ after) :
    splitLastList? sep (before ++ sep :: after) = some (before, after) := by
  induction before with
  | nil => simp [splitLastList?, splitLastList?_eq_none_iff.mpr absent]
  | cons c before ih => simp [splitLastList?, ih]

theorem eq_append_of_splitLastList? (found : splitLastList? sep cs = some (before, after)) :
    cs = before ++ sep :: after ∧ sep ∉ after := by
  induction cs generalizing before with
  | nil => simp [splitLastList?] at found
  | cons c cs ih =>
      rw [splitLastList?] at found
      cases later : splitLastList? sep cs with
      | some parts =>
          rw [later, Option.some.injEq, Prod.mk.injEq] at found
          rcases found with ⟨rfl, rfl⟩
          rcases ih later with ⟨split, absent⟩
          exact ⟨by rw [split, List.cons_append], absent⟩
      | none =>
          simp only [later, Option.ite_none_right_eq_some, Option.some.injEq, Prod.mk.injEq] at found
          rcases found with ⟨rfl, rfl, rfl⟩
          exact ⟨rfl, splitLastList?_eq_none_iff.mp later⟩

theorem splitLastList?_eq_some_iff :
    splitLastList? sep cs = some (before, after) ↔ cs = before ++ sep :: after ∧ sep ∉ after := by
  constructor
  · exact eq_append_of_splitLastList?
  · intro split
    rw [split.1]
    exact splitLastList?_append split.2

theorem splitLast?_eq_none_iff {s : String} : splitLast? sep s = none ↔ sep ∉ s.toList := by
  simp [splitLast?, splitLastList?_eq_none_iff]

/-- A text is cut at the separator after which there is no other. -/
theorem splitLast?_eq_some_iff {s before after : String} :
    splitLast? sep s = some (before, after) ↔ s = before ++ String.singleton sep ++ after ∧ sep ∉ after.toList := by
  have cut : splitLast? sep s = some (before, after) ↔
      splitLastList? sep s.toList = some (before.toList, after.toList) := by
    simp only [splitLast?, Option.map_eq_some_iff, Prod.exists, Prod.mk.injEq]
    constructor
    · rintro ⟨front, back, found, rfl, rfl⟩
      simpa using found
    · intro found
      exact ⟨before.toList, after.toList, found, by simp, by simp⟩
  rw [cut, splitLastList?_eq_some_iff, ← String.toList_inj]
  simp

end Text

/-! ### References -/

namespace EdgeEndpoint

/-- What is written of the endpoint can be told apart: its last colon is the one before the port, and without a port
there is none. -/
def Readable (e : EdgeEndpoint) : Prop :=
  match e.port with
  | some port => ':' ∉ port.toList
  | none => ':' ∉ e.boxName.toList

theorem parse_eq_some_iff {text name port : String} :
    parse text = ⟨name, some port⟩ ↔ Text.splitLast? ':' text = some (name, port) := by
  cases cut : Text.splitLast? ':' text with
  | none => simp [parse, cut]
  | some parts => simp [parse, cut, Prod.ext_iff]

theorem parse_eq_none_iff {text name : String} :
    parse text = ⟨name, none⟩ ↔ text = name ∧ Text.splitLast? ':' text = none := by
  cases cut : Text.splitLast? ':' text with
  | none => simp [parse, cut]
  | some parts => simp [parse, cut]

/-- A reference is read as the readable endpoint that is written like it. -/
theorem parse_eq_iff {text : String} {e : EdgeEndpoint} : parse text = e ↔ text = e.display ∧ e.Readable := by
  obtain ⟨name, port⟩ := e
  cases port with
  | none =>
      simp only [parse_eq_none_iff, Text.splitLast?_eq_none_iff, display, Readable]
      exact and_congr_right fun same => by rw [same]
  | some port =>
      rw [parse_eq_some_iff, Text.splitLast?_eq_some_iff]
      exact Iff.rfl

theorem display_parse (text : String) : (parse text).display = text :=
  (parse_eq_iff.mp rfl).1.symm

theorem readable_parse (text : String) : (parse text).Readable :=
  (parse_eq_iff.mp rfl).2

theorem readable_iff {e : EdgeEndpoint} :
    e.Readable ↔ (∃ port, e.port = some port ∧ ':' ∉ port.toList) ∨ (e.port = none ∧ ':' ∉ e.boxName.toList) := by
  obtain ⟨name, port⟩ := e
  cases port with
  | none => simp [Readable]
  | some port => simp [Readable]

theorem parse_display_iff {e : EdgeEndpoint} : parse e.display = e ↔ e.Readable := by
  simp [parse_eq_iff]

/-- A reference has the port that follows its last colon. -/
theorem port_parse_iff {text port : String} :
    (parse text).port = some port ↔ (∃ name, text = name ++ ":" ++ port) ∧ ':' ∉ port.toList := by
  constructor
  · intro named
    have readable := readable_parse text
    have written := display_parse text
    simp only [Readable, display, named] at readable written
    exact ⟨⟨(parse text).boxName, written.symm⟩, readable⟩
  · rintro ⟨⟨name, written⟩, plain⟩
    have read : parse text = ⟨name, some port⟩ := parse_eq_iff.mpr ⟨written, plain⟩
    rw [read]

theorem port_parse_isSome_iff {text : String} : (parse text).port.isSome ↔ ':' ∈ text.toList := by
  cases cut : Text.splitLast? ':' text with
  | none => simpa [parse, cut] using Text.splitLast?_eq_none_iff.mp cut
  | some parts =>
      have present : ':' ∈ text.toList := by
        rw [(Text.splitLast?_eq_some_iff.mp cut).1]
        simp
      simpa [parse, cut] using present

/-- Reading a reference and writing it again loses nothing.  The text has a port iff it holds a colon, and the port is
everything after the last one.  In the other direction an endpoint is read back iff its port, or its name where it has
no port, is free of colons. -/
theorem parse_and_display :
    (∀ text : String, (parse text).display = text ∧ ((parse text).port.isSome ↔ ':' ∈ text.toList) ∧
      ∀ port, (parse text).port = some port ↔ (∃ name, text = name ++ ":" ++ port) ∧ ':' ∉ port.toList) ∧
    ∀ e : EdgeEndpoint, parse e.display = e ↔
      (∃ port, e.port = some port ∧ ':' ∉ port.toList) ∨ (e.port = none ∧ ':' ∉ e.boxName.toList) := by
  constructor
  · intro text
    exact ⟨display_parse text, port_parse_isSome_iff, fun port => port_parse_iff⟩
  · intro e
    rw [parse_display_iff, readable_iff]

/-- With several colons only the last one is before a port. -/
example : parse "ns:db:out" = ⟨"ns:db", some "out"⟩ ∧ parse ":" = ⟨"", some ""⟩ ∧ parse "plain" = ⟨"plain", none⟩ := by
  decide

end EdgeEndpoint

end BoxDiagram
