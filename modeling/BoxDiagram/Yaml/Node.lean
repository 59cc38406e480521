/-
Module: BoxDiagram.Yaml.Node
Purpose: The nodes of a document with their places, and the faults that can be found in them.
Main exports: Node, Path, Found, DataProblem, YamlFault, YamlFault.message, YamlFault.offset?
-/
import BoxDiagram.Text.Quoted
import BoxDiagram.Yaml.Event
import BoxDiagram.Yaml.Value

namespace BoxDiagram.Yaml

/-! ### Nodes -/

/-- A node of a document.  An alias holds the node that it stands for. -/
inductive Node where
  | scalar (mark : Mark) (tag : Option String) (text : String) (style : ScalarStyle)
  | sequence (mark : Mark) (tag : Option String) (items : List Node)
  | mapping (mark : Mark) (tag : Option String) (entries : List (Node × Node))
  | reference (target : Node)
deriving Repr, Inhabited

/-- The name in a tag of the document's own, which begins with `!`. -/
def ownTag? (tag : Option String) : Option String :=
  match tag.map String.toList with
  | some ('!' :: name) => some (String.ofList name)
  | _ => none

/-- What a scalar stands for.  Quotes and unknown tags make it a text; `none` if it is not what its tag says. -/
def scalarAtom? (tag : Option String) (text : String) (style : ScalarStyle) : Option Atom :=
  match tag.bind ScalarTag.ofUri? with
  | some t => t.read? text
  | none =>
      if style == .plain && (tag.isNone || (ownTag? tag).isSome) then some (.ofPlain text)
      else some (.text text)

def Value.withTag (tag : Option String) (v : Value) : Value :=
  match ownTag? tag with
  | some name => .tagged name v
  | none => v

namespace Node

mutual

def value : Node → Value
  | scalar _ tag text style => .withTag tag (.atom ((scalarAtom? tag text style).getD .null))
  | sequence _ tag items => .withTag tag (.sequence (valuesOf items))
  | mapping _ tag entries => .withTag tag (.mapping (entryValues entries))
  | reference target => target.value

def valuesOf : List Node → List Value
  | [] => []
  | n :: ns => value n :: valuesOf ns

/-- The values of the entries of a mapping. -/
def entryValues : List (Node × Node) → List (Value × Value)
  | [] => []
  | (k, v) :: rest => (value k, value v) :: entryValues rest

end

/-- The node that an alias stands for, and any other node itself. -/
def resolve : Node → Node
  | reference target => target.resolve
  | n => n

/-- Where the node begins; for an alias, where the node that it stands for begins. -/
def mark : Node → Mark
  | scalar m _ _ _ | sequence m _ _ | mapping m _ _ => m
  | reference target => target.mark

end Node

/-! ### Paths -/

/-- A step from a node to a node inside it.  A value whose key is no scalar is told by no name. -/
inductive PathStep where
  | key (name : String)
  | index (n : Nat)
  | unnamed
deriving Repr, DecidableEq, Inhabited

/-- The way from the root of a document to a node. -/
abbrev Path := List PathStep

namespace Path

/-- A point for the root, and names with points between them for all other nodes. -/
def text (p : Path) : String := p.foldl step "."
where
  /-- The text after one more step. -/
  step (before : String) : PathStep → String
    | .key name => joint before ++ name
    | .index n => before ++ "[" ++ toString n ++ "]"
    | .unnamed => joint before ++ "?"
  /-- What stands before a name. -/
  joint (before : String) : String := if before == "." then "" else before ++ "."

end Path

/-- The step from a mapping to the value of a key. -/
def PathStep.ofKey : Node → PathStep
  | .scalar _ _ text _ => .key text
  | _ => .unnamed

/-! ### Faults -/

/-- What stands where something else is expected. -/
inductive Found where
  | bool (b : Bool)
  | integer (i : Int)
  | float (x : Float)
  | text (s : String)
  | unit
  | sequence
  | map
  | wide (i : Int)
deriving Repr, Inhabited

namespace Found

/-- A floating number without an exponent and with a point. -/
def floatText (x : Float) : String :=
  if x.isNaN then "NaN"
  else if x.isInf then (if x < 0 then "-inf" else "inf")
  else
    let bits := x.toBits.toNat
    let size := bits % 0x8000000000000000
    let digits := if size == 0 then "0" else (shortestDecimal binary64 size).positional
    (if bits ≥ 0x8000000000000000 then "-" else "") ++ digits ++
      if digits.toList.contains '.' then "" else ".0"

def words : Found → String
  | bool b => "boolean \x60" ++ toString b ++ "\x60"
  | integer i => "integer \x60" ++ toString i ++ "\x60"
  | float x => "floating point \x60" ++ floatText x ++ "\x60"
  | text s => "string " ++ Text.quoted s
  | unit => "unit value"
  | sequence => "sequence"
  | map => "map"
  | wide i => "integer \x60" ++ toString i ++ "\x60 as " ++ (if i < 0 then "i128" else "u128")

def ofAtom : Atom → Found
  | .null => unit
  | .bool b => bool b
  | .number (.natural n) => integer n
  | .number (.negative n) => integer (Int.negSucc n)
  | .number (.float x) => float x
  | .wide i => wide i
  | .text s => text s

def ofNode (n : Node) : Found :=
  match n.resolve with
  | .sequence _ _ _ => sequence
  | .mapping _ _ _ => map
  | .scalar _ tag s style => ofAtom ((scalarAtom? tag s style).getD (.text s))
  | .reference _ => unit

end Found

/-- What is wrong with the data of a document. -/
inductive DataProblem where
  | wrongType (found : Found) (expected : String)
  | wrongValue (found : Found) (expected : String)
  | noText (found : String)
  | duplicateKey (key : Value)
  | duplicateField (name : String)
  | noVariant (name : String)
  | taggedVariant
  | emptyTag
deriving Repr, Inhabited

def DataProblem.text : DataProblem → String
  | wrongType found expected => "invalid type: " ++ found.words ++ ", expected " ++ expected
  | wrongValue found expected => "invalid value: " ++ found.words ++ ", expected " ++ expected
  | noText found => "expected a string, found " ++ found
  | duplicateKey key =>
      "duplicate entry " ++
        match key with
        | .atom .null => "with null key"
        | .atom (.bool b) => "with key \x60" ++ toString b ++ "\x60"
        | .atom (.number n) => "with key " ++ n.text
        | .atom (.text s) => "with key " ++ Text.quoted s
        | _ => "in YAML map"
  | duplicateField name => "duplicate field \x60" ++ name ++ "\x60"
  | noVariant name => "data did not match any variant of untagged enum " ++ name
  | taggedVariant => "untagged and internally tagged enums do not support enum input"
  | emptyTag => "empty YAML tag is not allowed"

/-- Where a problem with data is: a place in the text and the way to the node. -/
structure DataPlace where
  mark : Mark
  path : Path
deriving Repr, DecidableEq, Inhabited

/-- Why a document cannot be read. -/
inductive YamlFault where
  | source (fault : SourceFault)
  | unknownAnchor (mark : Mark)
  | tooDeep (mark : Mark)
  | tooManyAliases
  | severalDocuments
  | unfinished
  | data (problem : DataProblem) (place : Option DataPlace)
deriving Repr, Inhabited

namespace YamlFault

def message : YamlFault → String
  | source f => f.message
  | unknownAnchor m => "unknown anchor" ++ m.suffix
  | tooDeep m => "recursion limit exceeded" ++ m.suffix
  | tooManyAliases => "repetition limit exceeded"
  | severalDocuments => "deserializing from YAML containing more than one document is not supported"
  | unfinished => "EOF while parsing a value"
  | data problem none => problem.text
  | data problem (some place) =>
      let path := place.path.text
      (if path == "." then "" else path ++ ": ") ++ problem.text ++ place.mark.suffix

/-- The number of bytes before the place of the fault, if it has one. -/
def offset? : YamlFault → Option Nat
  | source f => some f.mark.index
  | unknownAnchor m | tooDeep m => some m.index
  | tooManyAliases | severalDocuments | unfinished => none
  | data _ place => place.map fun p => p.mark.index

/-- The fault with a place, unless it has one already. -/
def located (place : DataPlace) : YamlFault → YamlFault
  | data problem none => data problem (some place)
  | f => f

end YamlFault

/-- Give a place to a fault that has none. -/
def locate {β : Type} (n : Node) (path : Path) (r : Except YamlFault β) : Except YamlFault β :=
  r.mapError (.located ⟨n.mark, path⟩)

end BoxDiagram.Yaml
