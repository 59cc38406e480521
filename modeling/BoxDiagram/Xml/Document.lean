/-
Module: BoxDiagram.Xml.Document
Purpose: Checking that a text is an XML document, and finding its outermost element.
Main exports: RootElement, readXml
-/
import BoxDiagram.Xml.Cursor

namespace BoxDiagram.Xml

/-- The outermost element of a document: its namespace, its name, and its attributes without a namespace. -/
structure RootElement where
  space : Option String
  name : String
  attributes : List (String × String)
deriving Repr, DecidableEq, Inhabited

def RootElement.attribute? (r : RootElement) (name : String) : Option String :=
  (r.attributes.find? fun a => a.1 = name).map (·.2)

/-- An attribute, with its place. -/
structure Attribute where
  name : QName
  value : String
  place : Place

/-- An element that is open: its name, and the namespaces that hold in it, the nearest first. -/
structure OpenElement where
  name : QName
  spaces : List (String × String)

/-! ### Attributes -/

/-- The value of an attribute between its quotes; line ends and tabs become blanks. -/
def readValue (cur : Cursor) : Except XmlFault (String × Cursor) :=
  match cur.rest with
  | [] => .error .endOfText
  | quote :: _ =>
      if quote != '"' && quote != '\'' then .error (.wrongKind "a quote" (leadingByte quote) cur.place)
      else do
        let start := cur.skip 1
        let (raw, cur) ← start.takeChars fun rest => rest.head? == some quote || rest.head? == some '<'
        let cur ← cur.expect quote
        let value ← resolveReferences start.place (raw.map fun c => if isXmlSpace c then ' ' else c)
        return (String.ofList value, cur)

/-- The attributes up to the end of a tag, and whether the tag leaves the element open.  Where the text ends
within the tag there is no end.  `fuel` bounds the number of attributes. -/
def readAttributes : Nat → Cursor → Except XmlFault (List Attribute × Option Bool × Cursor)
  | 0, cur => .ok ([], none, cur)
  | fuel + 1, cur =>
      match cur.rest with
      | [] => .ok ([], none, cur)
      | first :: _ =>
          let next := cur.skipSpaces
          match next.rest with
          | [] => .error .endOfText
          | '/' :: _ => do return ([], some false, ← (next.skip 1).expect '>')
          | '>' :: _ => .ok ([], some true, next.skip 1)
          | c :: _ =>
              if !isXmlSpace first then .error (.wrongKind "a whitespace" (leadingByte c) next.place)
              else do
                let (name, cur) ← next.readQName
                let cur ← cur.skipSpaces.expect '='
                let (value, cur) ← readValue cur.skipSpaces
                let (more, ending, cur) ← readAttributes fuel cur
                return (⟨name, value, next.place⟩ :: more, ending, cur)

/-- Does the attribute declare a namespace? -/
def Attribute.isDeclaration (a : Attribute) : Bool :=
  a.name.space = "xmlns" || (a.name.space = "" && a.name.base = "xmlns")

/-- The namespaces in an element: those that its attributes declare before those around it. -/
def declaredSpaces (attributes : List Attribute) (outer : List (String × String)) : List (String × String) :=
  ((attributes.filter Attribute.isDeclaration).map fun a =>
    (if a.name.space = "" then "" else a.name.base, a.value)) ++ outer

/-- The namespace of a name in an element.  A name without a colon need not have one. -/
def spaceOf (spaces : List (String × String)) (name : QName) (place : Place) :
    Except XmlFault (Option String) :=
  match spaces.find? fun s => s.1 = name.space with
  | some (_, uri) => .ok (some uri)
  | none => if name.space = "" then .ok none else .error (.unknownPrefix name.space place)

/-- Every attribute occurs once, and its namespace is known. -/
def checkAttributes (spaces : List (String × String)) : List Attribute → List Attribute → Except XmlFault Unit
  | _, [] => .ok ()
  | before, a :: rest => do
      if a.name.space != "" then let _ ← spaceOf spaces a.name a.place
      if before.any fun b => b.name = a.name then .error (.repeatedAttribute a.name.text a.place)
      else checkAttributes spaces (a :: before) rest

/-! ### Content -/

def occurs (text : List Char) : List Char → Bool
  | [] => text.isEmpty
  | c :: rest => text.isPrefixOf (c :: rest) || occurs text rest

def skipComment (cur : Cursor) : Except XmlFault Cursor := do
  let (body, next) ← (cur.skip 4).takeChars fun rest => "-->".toList.isPrefixOf rest
  let next ← next.expectText "-->"
  if body.getLast? = some '-' || occurs "--".toList body then
    .error (.badComment cur.place)
  else .ok next

/-- Go over an instruction to another program. -/
def skipInstruction (cur : Cursor) : Except XmlFault Cursor := do
  if cur.sees "<?xml " then .error (.lateDeclaration cur.place)
  else
    let (_, next) ← (cur.skip 2).readName
    let (_, next) ← next.skipSpaces.takeChars fun rest => "?>".toList.isPrefixOf rest
    next.expectText "?>"

/-- Go over text that is taken as it is. -/
def skipVerbatim (cur : Cursor) : Except XmlFault Cursor := do
  let (_, next) ← (cur.skip 9).takeChars fun rest => "]]>".toList.isPrefixOf rest
  next.expectText "]]>"

def skipText (cur : Cursor) : Except XmlFault Cursor := do
  let (body, next) ← cur.takeChars fun rest => rest.head? == some '<'
  if occurs "]]>".toList body then .error (.badText cur.place)
  else
    let _ ← resolveReferences cur.place body
    return next

/-- Read the tag that opens an element.  The answer is the element, and the elements that are open after the
tag. -/
def readOpening (cur : Cursor) (stack : List OpenElement) :
    Except XmlFault (Option RootElement × List OpenElement × Cursor) := do
  let (name, next) ← (cur.skip 1).readQName
  let (attributes, ending, next) ← readAttributes (next.rest.length + 1) next
  match ending with
  | none => return (none, stack, next)
  | some isOpen =>
      let outer := (stack.head?.map OpenElement.spaces).getD [("xml", "http://www.w3.org/XML/1998/namespace")]
      let spaces := declaredSpaces attributes outer
      let plain := attributes.filter fun a => !a.isDeclaration
      checkAttributes spaces [] plain
      let space ← spaceOf spaces name cur.place
      let root : RootElement :=
        ⟨space, name.base, (plain.filter fun a => a.name.space = "").map fun a => (a.name.base, a.value)⟩
      return (some root, if isOpen then ⟨name, spaces⟩ :: stack else stack, next)

/-- Read the tag that closes the innermost open element. -/
def readClosing (cur : Cursor) (stack : List OpenElement) : Except XmlFault (List OpenElement × Cursor) := do
  let (name, next) ← (cur.skip 2).readQName
  let next ← next.skipSpaces.expect '>'
  match stack with
  | [] => .error (.unknownToken cur.place)
  | element :: outer =>
      if name = element.name then .ok (outer, next)
      else .error (.wrongEndTag element.name.text name.text cur.place)

/-- Read one item of the content of an element. -/
def readItem (cur : Cursor) (stack : List OpenElement) : Except XmlFault (List OpenElement × Cursor) :=
  match cur.rest with
  | '<' :: '!' :: _ =>
      if cur.sees "<!--" then (skipComment cur).map (stack, ·)
      else if cur.sees "<![CDATA[" then (skipVerbatim cur).map (stack, ·)
      else .error (.unknownToken cur.place)
  | '<' :: '?' :: _ => (skipInstruction cur).map (stack, ·)
  | '<' :: '/' :: _ => readClosing cur stack
  | ['<'] => .error (.unknownToken cur.place)
  | '<' :: _ => (readOpening cur stack).map fun (_, stack, cur) => (stack, cur)
  | _ => (skipText cur).map (stack, ·)

/-- Read the content of the open elements until all are closed or the text ends.  `fuel` bounds the number of
items. -/
def readContent : Nat → Cursor → List OpenElement → Except XmlFault (List OpenElement × Cursor)
  | 0, cur, stack => .ok (stack, cur)
  | fuel + 1, cur, stack =>
      if stack.isEmpty || cur.rest.isEmpty then .ok (stack, cur)
      else do
        let (stack, cur) ← readItem cur stack
        readContent fuel cur stack

/-! ### Documents -/

/-- Go over blanks, comments and instructions.  `fuel` bounds their number. -/
def skipMisc : Nat → Cursor → Except XmlFault Cursor
  | 0, cur => .ok cur
  | fuel + 1, cur =>
      let cur := cur.skipSpaces
      if cur.sees "<!--" then do skipMisc fuel (← skipComment cur)
      else if cur.sees "<?" then do skipMisc fuel (← skipInstruction cur)
      else .ok cur

/-- Go over the declaration at the beginning of a document, if there is one. -/
def skipDeclaration (cur : Cursor) : Except XmlFault Cursor :=
  if cur.sees "<?xml " then do
    let (_, next) ← (cur.skip 6).takeChars fun rest => "?>".toList.isPrefixOf rest
    next.expectText "?>"
  else .ok cur

/-- Go over the declaration of the document type, if there is one. -/
def skipDoctype (cur : Cursor) : Except XmlFault Cursor :=
  if cur.sees "<!DOCTYPE" then do
    let (_, next) ← cur.takeChars fun rest => rest.head? == some '>' || rest.head? == some '['
    let next ←
      if next.sees "[" then do
        let (_, next) ← next.takeChars fun rest => rest.head? == some ']'
        pure (← next.expectText "]").skipSpaces
      else pure next
    next.expect '>'
  else .ok cur

/-- The outermost element of a text, which has to be an XML document. -/
def readXml (text : String) : Except XmlFault RootElement := do
  let fuel := text.length + 1
  let cur := Cursor.start text
  let cur := if cur.sees "\ufeff" then ⟨cur.rest.drop 1, cur.place⟩ else cur
  let cur ← skipMisc fuel (← skipDeclaration cur)
  let cur ← skipMisc fuel (← skipDoctype cur)
  let (root, stack, cur) ←
    if cur.sees "<" then do
      let (root, stack, cur) ← readOpening cur []
      let (stack, cur) ← readContent fuel cur stack
      pure (root, stack, cur)
    else pure (none, [], cur)
  let cur ← skipMisc fuel cur
  if !cur.rest.isEmpty then .error (.unknownToken cur.place)
  else
    match root with
    | none => .error .noRoot
    | some root => if stack.isEmpty then .ok root else .error .unclosedRoot

end BoxDiagram.Xml
