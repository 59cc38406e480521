/-
Module: BoxDiagram.Layout.Options
Purpose: Layout options: texts under fixed keys, through which a layout request tells its engine what to do.
Main exports: LayoutOptions, LayoutOptions.set, LayoutOptions.number?, sizeText, parseSize?, insetsText,
  parseInsets?, and the option keys
-/
import BoxDiagram.Geometry
import BoxDiagram.OrderedMap
import BoxDiagram.Text.Blank
import BoxDiagram.Text.Split

namespace BoxDiagram

/-- Options in the order in which they were first set. -/
abbrev LayoutOptions := OrderedMap String

namespace LayoutOptions

variable {α : Type} [NumberText α]

def setNumber (o : LayoutOptions) (key : String) (value : α) : LayoutOptions :=
  o.insert key (NumberText.print value)

def number? (o : LayoutOptions) (key : String) : Option α :=
  (o.get? key).bind fun text => NumberText.read? (Text.trim text)

end LayoutOptions

/-! ### Keys -/

namespace OptionKey

def algorithm : String := "elk.algorithm"
def direction : String := "elk.direction"
def hierarchyHandling : String := "elk.hierarchyHandling"
def edgeRouting : String := "elk.edgeRouting"
def favorStraightEdges : String := "elk.layered.nodePlacement.favorStraightEdges"
def nodeSpacing : String := "elk.spacing.nodeNode"
def layerSpacing : String := "elk.layered.spacing.nodeNodeBetweenLayers"
def componentSpacing : String := "elk.spacing.componentComponent"
def edgeNodeSpacing : String := "elk.spacing.edgeNode"
def edgeEdgeSpacing : String := "elk.spacing.edgeEdge"
def edgeNodeBetweenLayers : String := "elk.layered.spacing.edgeNodeBetweenLayers"
def edgeEdgeBetweenLayers : String := "elk.layered.spacing.edgeEdgeBetweenLayers"
def edgeLabelSpacing : String := "elk.spacing.edgeLabel"
def edgeLabelSide : String := "elk.layered.edgeLabels.sideSelection"
def edgeLabelCenter : String := "elk.layered.edgeLabels.centerLabelPlacementStrategy"
def crossingMinimization : String := "elk.layered.crossingMinimization.strategy"
def greedySwitch : String := "elk.layered.crossingMinimization.greedySwitch.type"
def greedySwitchHierarchical : String := "elk.layered.crossingMinimization.greedySwitchHierarchical.type"
def thoroughness : String := "elk.layered.thoroughness"
def nodePlacement : String := "elk.layered.nodePlacement.strategy"
def blockAlignment : String := "elk.layered.nodePlacement.bk.fixedAlignment"
def postCompaction : String := "elk.layered.compaction.postCompaction.strategy"
def connectedComponents : String := "elk.layered.compaction.connectedComponents"
def portSide : String := "elk.port.side"
def portConstraints : String := "elk.portConstraints"
def portAlignment : String := "elk.portAlignment.default"
def portSpacing : String := "elk.spacing.portPort"
def portLabels : String := "elk.portLabels.placement"
def portLabelsNextToPort : String := "elk.portLabels.nextToPortIfPossible"
def portsSurrounding : String := "elk.spacing.portsSurrounding"
def padding : String := "elk.padding"
def sizeConstraints : String := "elk.nodeSize.constraints"
def minimumSize : String := "elk.nodeSize.minimum"

end OptionKey

/-! ### Sizes and insets as option values -/

variable {α : Type} [NumberText α]

def sizeText (s : Size α) : String :=
  "(" ++ NumberText.print s.width ++ "," ++ NumberText.print s.height ++ ")"

/-- Insets as `[top=…,left=…,bottom=…,right=…]`. -/
def insetsText (i : Insets α) : String :=
  "[top=" ++ NumberText.print i.top ++ ",left=" ++ NumberText.print i.left ++
    ",bottom=" ++ NumberText.print i.bottom ++ ",right=" ++ NumberText.print i.right ++ "]"

/-- What stands between an opening and a closing character that enclose a whole text, blanks around it
apart. -/
def enclosed? (opening closing : Char) (text : String) : Option (List Char) :=
  match Text.trimList text.toList with
  | [] => none
  | c :: rest =>
      if c = opening then
        match rest.reverse with
        | [] => none
        | d :: inner => if d = closing then some inner.reverse else none
      else none

def readTrimmed? (cs : List Char) : Option α := NumberText.read? (String.ofList (Text.trimList cs))

/-- Read a size: two numbers in parentheses, split at the first comma. -/
def parseSize? (text : String) : Option (Size α) := do
  let inner ← enclosed? '(' ')' text
  let (width, height) ← Text.splitFirstList? ',' inner
  return ⟨← readTrimmed? width, ← readTrimmed? height⟩

/-- The insets with one side replaced; `none` for a name that is not a side. -/
def Insets.set? (i : Insets α) (side : String) (value : α) : Option (Insets α) :=
  match side with
  | "top" => some { i with top := value }
  | "right" => some { i with right := value }
  | "bottom" => some { i with bottom := value }
  | "left" => some { i with left := value }
  | _ => none

/-- Read one entry `side=number` into the insets; an entry of blanks changes nothing. -/
def readInset? (i : Insets α) (entry : List Char) : Option (Insets α) :=
  if entry.all Text.isBlank then some i
  else do
    let (side, value) ← Text.splitFirstList? '=' entry
    let value ← readTrimmed? value
    i.set? (String.ofList (Text.trimList side)) value

/-- Read insets: entries in brackets, with commas between them.  A side without an entry is zero, and of
several entries for one side the last one counts. -/
def parseInsets? [Scalar α] (text : String) : Option (Insets α) := do
  let inner ← enclosed? '[' ']' text
  (Text.splitList ',' inner).foldlM readInset? Insets.zero

end BoxDiagram
