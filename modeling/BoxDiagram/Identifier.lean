/-
Module: BoxDiagram.Identifier
Purpose: Identifiers of boxes and ports.
Main exports: Identifier, Identifier.sanitise, Identifier.ofName, Identifier.port
-/

namespace BoxDiagram

/-- The address of a box or of a port in a layout. -/
structure Identifier where
  text : String
deriving Repr, DecidableEq, Inhabited, Hashable

namespace Identifier

/-- Characters that stay as they are in a box identifier. -/
def isPlain (c : Char) : Bool := c.isAlphanum

/-- Replace every character other than an ASCII letter or digit by an underscore. -/
def sanitiseList (cs : List Char) : List Char := cs.map fun c => if isPlain c then c else '_'

/-- Replace every character of a text other than an ASCII letter or digit by an underscore. -/
def sanitise (s : String) : String := String.ofList (sanitiseList s.toList)

/-- The identifier of the box with this display name. -/
def ofName (name : String) : Identifier := ⟨sanitise name⟩

/-- The identifier of a port of this box: both texts joined by an underscore, the port's as it is. -/
def port (box : Identifier) (portId : String) : Identifier := ⟨box.text ++ "_" ++ portId⟩

instance : ToString Identifier := ⟨text⟩

/-- Identifiers are ordered by the code points of their texts. -/
instance : Ord Identifier := ⟨fun a b => compare a.text b.text⟩

end Identifier

end BoxDiagram
