/-
Module: BoxDiagram.Colour.Basic
Purpose: Colours that are known to be CSS colours, kept in the spelling they were given in.
Main exports: ColourSyntax, Colour, Colour.Fault, Colour.parse
-/
import BoxDiagram.Colour.Syntax
import BoxDiagram.Text.Blank

namespace BoxDiagram

/-- A test for CSS colours, which gives the reason why a text is not one. -/
class ColourSyntax where
  check : String → Except Colour.SyntaxFault Unit

/-- The test of this library. -/
instance : ColourSyntax := ⟨Colour.checkColour⟩

/-- A CSS colour as written, without the blanks around it. -/
structure Colour where
  text : String
deriving Repr, DecidableEq

namespace Colour

/-- A text that is not a colour, with the reason. -/
structure Fault where
  text : String
  reason : SyntaxFault
deriving Repr, DecidableEq

/-- The report shows the text with its blanks. -/
def Fault.message (f : Fault) : String :=
  "invalid color `" ++ f.text ++ "`: " ++ f.reason.reason

/-- Is a text, up to blanks around it, a CSS colour? -/
def isColour [ColourSyntax] (text : String) : Bool :=
  match ColourSyntax.check (Text.trim text) with
  | .ok () => true
  | .error _ => false

/-- Read a colour; blanks around it do not count. -/
def parse [ColourSyntax] (text : String) : Except Fault Colour :=
  match ColourSyntax.check (Text.trim text) with
  | .ok () => .ok ⟨Text.trim text⟩
  | .error reason => .error ⟨text, reason⟩

end Colour

end BoxDiagram
