/-
Module: BoxDiagram.Xml.Fault
Purpose: What keeps a text from being an XML document.
Main exports: Place, XmlFault, XmlFault.message
-/

namespace BoxDiagram.Xml

/-- A line and a column, counted from one. -/
structure Place where
  row : Nat
  column : Nat
deriving Repr, DecidableEq, Inhabited

def Place.text (p : Place) : String := toString p.row ++ ":" ++ toString p.column

/-- A fault of a document, with its place where it has one. -/
inductive XmlFault where
  | noRoot
  | unclosedRoot
  | endOfText
  | forbiddenChar (c : Char) (place : Place)
  | badName (place : Place)
  | wrongChar (expected found : Char) (place : Place)
  | wrongKind (expected : String) (found : Char) (place : Place)
  | missingText (expected : String) (place : Place)
  | badComment (place : Place)
  | badText (place : Place)
  | unknownToken (place : Place)
  | lateDeclaration (place : Place)
  | wrongEndTag (expected found : String) (place : Place)
  | unknownEntity (name : String) (place : Place)
  | badReference (place : Place)
  | repeatedAttribute (name : String) (place : Place)
  | unknownPrefix (name : String) (place : Place)
deriving Repr, DecidableEq, Inhabited

/-- A number in lower-case digits of base sixteen. -/
def hexText (n : Nat) : String := String.ofList (Nat.toDigits 16 n)

/-- A character that must not stand in a document, in an escaped form. -/
def escapedChar (c : Char) : String :=
  if c.toNat = 0 then "'\\0'" else "'\\u\x7b" ++ hexText c.toNat ++ "\x7d'"

def quotedChar (c : Char) : String := "'" ++ String.singleton c ++ "'"

def XmlFault.message : XmlFault → String
  | noRoot => "the document does not have a root node"
  | unclosedRoot => "the root node was opened but never closed"
  | endOfText => "unexpected end of stream"
  | forbiddenChar c p => "a non-XML character " ++ escapedChar c ++ " found at " ++ p.text
  | badName p => "invalid name token at " ++ p.text
  | wrongChar expected found p =>
      "expected " ++ quotedChar expected ++ " not " ++ quotedChar found ++ " at " ++ p.text
  | wrongKind expected found p => "expected " ++ expected ++ " not " ++ quotedChar found ++ " at " ++ p.text
  | missingText expected p => "expected '" ++ expected ++ "' at " ++ p.text
  | badComment p => "comment at " ++ p.text ++ " contains '--'"
  | badText p => "']]>' at " ++ p.text ++ " is not allowed inside a character data"
  | unknownToken p => "unknown token at " ++ p.text
  | lateDeclaration p => "unexpected XML declaration at " ++ p.text
  | wrongEndTag expected found p => "expected '" ++ expected ++ "' tag, not '" ++ found ++ "' at " ++ p.text
  | unknownEntity name p => "unknown entity reference '" ++ name ++ "' at " ++ p.text
  | badReference p => "malformed entity reference at " ++ p.text
  | repeatedAttribute name p => "attribute '" ++ name ++ "' at " ++ p.text ++ " is already defined"
  | unknownPrefix name p => "an unknown namespace prefix '" ++ name ++ "' at " ++ p.text

end BoxDiagram.Xml
