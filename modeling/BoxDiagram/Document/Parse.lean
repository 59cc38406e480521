/-
Module: BoxDiagram.Document.Parse
Purpose: The diagram in the text of a document.
Main exports: ParseFault, ParseFault.message, readRawDocument, parseDiagram
-/
import BoxDiagram.Document.Decode
import BoxDiagram.Document.Lower

namespace BoxDiagram

/-- Why a text is no diagram document. -/
inductive ParseFault where
  | yaml (fault : Yaml.YamlFault)
  | notAMapping
deriving Repr, Inhabited

namespace ParseFault

def message : ParseFault → String
  | yaml f => "Invalid YAML: " ++ f.message
  | notAMapping => "Invalid YAML: expected an object at the top level"

/-- Number of bytes before the place of the fault, if it has one. -/
def offset? : ParseFault → Option Nat
  | yaml f => f.offset?
  | notAMapping => none

end ParseFault

/-- The raw document in a text.  Its root has to be a mapping. -/
def readRawDocument (text : String) : Except ParseFault (RawDocument Float32) := do
  if Text.isBlankText text then throw .notAMapping
  let root ← (Yaml.readDocument text).mapError .yaml
  if !root.value.isMapping then throw .notAMapping
  (decodeDocument root).mapError .yaml

/-- The diagram in a text, with a reader of raw documents. -/
def parseDiagram {ε : Type} (read : String → Except ε (RawDocument Float32)) (text : String) :
    Except ε (Diagram Float32) :=
  (read text).map RawDocument.lower

end BoxDiagram
