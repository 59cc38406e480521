/-
Module: BoxDiagram.Svg.Element
Purpose: SVG elements and their text.
Main exports: Svg.Node, Svg.element, Svg.Node.render
-/

namespace BoxDiagram.Svg

/-- A piece of a document: text, or an element with attributes and children. -/
inductive Node where
  | text (content : String)
  | element (name : String) (attributes : List (String × String)) (children : List Node)
deriving Repr, Inhabited

def escapeTextChar : Char → String
  | '&' => "&amp;"
  | '<' => "&lt;"
  | '>' => "&gt;"
  | c => c.toString

/-- Write a character of an attribute value. -/
def escapeValueChar : Char → String
  | '"' => "&quot;"
  | '\'' => "&apos;"
  | c => escapeTextChar c

def escapeText (s : String) : String := String.join (s.toList.map escapeTextChar)

def escapeValue (s : String) : String := String.join (s.toList.map escapeValueChar)

/-- Attributes in the order of their names. -/
def sortAttributes (attributes : List (String × String)) : List (String × String) :=
  attributes.mergeSort fun a b => a.1 ≤ b.1

/-- Write the attributes of an element. -/
def renderAttributes (attributes : List (String × String)) : String :=
  String.join ((sortAttributes attributes).map fun (name, value) =>
    " " ++ name ++ "=\"" ++ escapeValue value ++ "\"")

namespace Node

def isText : Node → Bool
  | text _ => true
  | element _ _ _ => false

/-- Inside these elements a text stands on a line of its own. -/
def breaksTexts (name : String) : Bool := name == "text" || name == "svg"

mutual

def render : Node → String
  | text content => escapeText content
  | element name attributes children =>
      let opening := "<" ++ name ++ renderAttributes attributes
      match children with
      | [] => opening ++ "/>"
      | _ :: _ => opening ++ ">" ++ renderChildren (breaksTexts name) children ++ "</" ++ name ++ ">"

/-- The children of an element.  Each one starts on a new line, and so does the closing tag, but for texts
where they do not break lines. -/
def renderChildren (breaks : Bool) : List Node → String
  | [] => ""
  | [child] =>
      if breaks || !child.isText then "\n" ++ render child ++ "\n" else render child
  | child :: next :: rest =>
      (if breaks || !child.isText then "\n" else "") ++ render child ++ renderChildren breaks (next :: rest)

end

end Node

/-- A whole document: the root element with its name space. -/
def document (attributes : List (String × String)) (children : List Node) : Node :=
  .element "svg" (("xmlns", "http://www.w3.org/2000/svg") :: attributes) children

def group (attributes : List (String × String)) (children : List Node) : Node :=
  .element "g" attributes children

/-- A text element.  It begins with an empty text. -/
def textElement (attributes : List (String × String)) (children : List Node) : Node :=
  .element "text" attributes (.text "" :: children)

/-- A piece of a text element.  It begins with an empty text. -/
def textSpan (attributes : List (String × String)) (content : String) : Node :=
  .element "tspan" attributes [.text "", .text content]

end BoxDiagram.Svg
