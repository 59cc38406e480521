/-
Module: BoxDiagram.Failure
Purpose: The ways in which the work from a document to its pictures can fail, with their texts.
Main exports: ExportFault, Failure, Failure.message
-/
import BoxDiagram.Document.Parse

namespace BoxDiagram

/-- Why a drawing cannot be turned into a picture. -/
inductive ExportFault where
  | render (text : String)
  | io (text : String)
deriving Repr, DecidableEq, Inhabited

namespace ExportFault

def message : ExportFault → String
  | render text => "Render error: " ++ text
  | io text => "I/O error: " ++ text

/-- The text of what caused the fault, if something outside did. -/
def cause? : ExportFault → Option String
  | render _ => none
  | io text => some text

end ExportFault

/-- A failure, by the stage in which it arises.  A parse failure keeps the text of the document, so that the
place can be shown. -/
inductive Failure where
  | io (text : String)
  | parse (fault : ParseFault) (source : String)
  | validation (errors : List String)
  | config (text : String)
  | layout (text : String)
  | picture (fault : ExportFault)
deriving Repr, Inhabited

def Failure.message : Failure → String
  | io text => "I/O error: " ++ text
  | parse fault _ => fault.message
  | validation errors => "Validation failed with " ++ toString errors.length ++ " error(s)"
  | config text => "Configuration error: " ++ text
  | layout text => "Layout error: " ++ text
  | picture fault => "Export error: " ++ fault.message

end BoxDiagram
