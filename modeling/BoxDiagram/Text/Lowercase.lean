/-
Module: BoxDiagram.Text.Lowercase
Purpose: The lowercase form of a text by the default case mapping of Unicode.
Main exports: lowercaseChar, lowercase
-/
import BoxDiagram.Text.LowercaseTable

namespace BoxDiagram.Text

/-- The simple lowercase mapping of one character; the capital sigma is left to `lowercaseList`. -/
def lowercaseChar (c : Char) : Char :=
  if c.toNat < 0x80 then c.toLower
  else
    match lowercaseRanges.find? fun (first, last, step, _) =>
        first ≤ c.toNat && c.toNat ≤ last && (c.toNat - first) % step == 0 with
    | some (_, _, _, offset) => Char.ofNat ((c.toNat : Int) + offset).toNat
    | none => c

/-- Does a character belong to one of the runs? -/
def inRanges (ranges : List (Nat × Nat)) (c : Char) : Bool :=
  ranges.any fun (first, last) => first ≤ c.toNat && c.toNat ≤ last

/-- Is the next character that is not case-ignorable a cased one? -/
def casedNext (cs : List Char) : Bool :=
  match cs.dropWhile (inRanges caseIgnorableRanges) with
  | c :: _ => inRanges casedRanges c
  | [] => false

/-- Lowercase a text of which the reversed list `before` has been read.  A capital sigma becomes the final
form at the end of a word, and the dotted capital I keeps its dot. -/
def lowercaseList (before : List Char) : List Char → List Char
  | [] => []
  | 'Σ' :: rest =>
      (if casedNext before && !casedNext rest then 'ς' else 'σ') :: lowercaseList ('Σ' :: before) rest
  | 'İ' :: rest => 'i' :: '\u0307' :: lowercaseList ('İ' :: before) rest
  | c :: rest => lowercaseChar c :: lowercaseList (c :: before) rest

def lowercase (s : String) : String := String.ofList (lowercaseList [] s.toList)

end BoxDiagram.Text
