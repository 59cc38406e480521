/-
Module: BoxDiagram.Report
Purpose: Failures as they are shown to a user: a text, a code, help, and the place in the document.
Main exports: SourceSpan, Report, Failure.report
-/
import BoxDiagram.Failure

namespace BoxDiagram

/-- A place in a document, in bytes, with a remark. -/
structure SourceSpan where
  remark : String
  offset : Nat
  length : Nat
deriving Repr, DecidableEq

/-- How a failure is shown. -/
structure Report where
  text : String
  code : String
  help : Option String
  span : Option SourceSpan
  /-- Did something outside cause the failure? -/
  hasCause : Bool
deriving Repr, DecidableEq

/-- The code of a failure names its stage. -/
def Failure.code : Failure → String
  | io _ => "boxes::io"
  | parse _ _ => "boxes::parse"
  | validation _ => "boxes::validation"
  | config _ => "boxes::config"
  | layout _ => "boxes::layout"
  | picture _ => "boxes::export"

/-- What may help: the faults of the diagram line by line, or how a document begins. -/
def Failure.help? : Failure → Option String
  | validation errors => some (Text.joinWith "\n" errors)
  | parse .notAMapping _ =>
      some "a Boxes document starts with top-level keys such as \x60diagram:\x60 and \x60boxes:\x60"
  | _ => none

/-- The byte of the document at which a parse fault shows, if it has a place.  At the end of the document
there is none. -/
def Failure.span? : Failure → Option SourceSpan
  | parse fault source =>
      fault.offset?.map fun offset =>
        let size := source.utf8ByteSize
        ⟨"here", min offset size, if offset < size then 1 else 0⟩
  | _ => none

def Failure.report (f : Failure) : Report :=
  { text := f.message
    code := f.code
    help := f.help?
    span := f.span?
    hasCause := match f with
      | io _ => true
      | _ => false }

end BoxDiagram
