/-
Module: BoxDiagram.CommandLine.Session
Purpose: Carrying out a command: which files are read, and which are written.  How texts are read, diagrams laid out
  and pictures painted is up to a toolkit.
Main exports: Toolkit, Toolkit.standard, outputBase, loadConfig, loadInput, runRender, runCommand
-/
import BoxDiagram.CommandLine.Arguments
import BoxDiagram.Config.Decode
import BoxDiagram.Files.Access
import BoxDiagram.Picture.Raster
import BoxDiagram.Rendering
import BoxDiagram.Toml.Document

namespace BoxDiagram

/-- What the commands leave to others. -/
structure Toolkit where
  /-- The raw document in a text. -/
  readDocument : String → Except ParseFault (RawDocument Float32)
  /-- The configuration in a text, if it is one. -/
  readConfig? : String → Option (AppConfig Float32)
  engine : LayoutEngine Float32
  /-- The bytes of the picture of an SVG text with so many pixels to the inch. -/
  picture : String → Nat → Except ExportFault ByteArray

/-- The readers and the layout of this library.  There is no painter in it. -/
def Toolkit.standard (picture : String → Nat → Except ExportFault ByteArray) : Toolkit where
  readDocument := readRawDocument
  readConfig? text := (Toml.readToml? text).bind decodeConfig?
  engine := .builtin
  picture := picture

/-- A text without an ending, if it ends so. -/
def stripEnding? (ending text : String) : Option String :=
  if ending.toList.isSuffixOf text.toList then
    some (String.ofList (text.toList.take (text.length - ending.length)))
  else none

/-- The path of the pictures of a document, up to their endings. -/
def outputBase (input : String) : String :=
  ((stripEnding? ".boxes.yaml" input).or (stripEnding? ".yaml" input)).getD input

/-! ### Configuration -/

/-- Where a configuration is looked for when none is named. -/
def localConfigPath : String := "boxes/config.toml"

/-- The configuration file below the directory for configurations. -/
def homeConfigPath (home : String) : String := home ++ "/boxes/config.toml"

variable {m : Type → Type} [Monad m]

def readFile (files : FileAccess m) (path : String) : ExceptT Failure m String := do
  match ← files.readText path with
  | .ok text => return text
  | .error fault => throw (.io fault.message)

def writeFile (files : FileAccess m) (path : String) (bytes : ByteArray) : ExceptT Failure m Unit := do
  match ← files.write path bytes with
  | .ok () => return ()
  | .error fault => throw (.io fault.message)

variable (tools : Toolkit) (files : FileAccess m)

def loadConfigFile (path : String) : ExceptT Failure m (AppConfig Float32) := do
  if !(← files.isPresent path) then throw (.config ("Missing configuration file: " ++ path))
  let text ← readFile files path
  match tools.readConfig? text with
  | some config => return config
  | none => throw (.config ("Failed to parse TOML configuration " ++ path))

/-- The configuration: the one that is named, or else the local one, or else the one of the user, or else the
standard one. -/
def loadConfig (home named : Option String) : ExceptT Failure m (AppConfig Float32) := do
  match named with
  | some path => loadConfigFile tools files path
  | none =>
      if ← files.isPresent localConfigPath then loadConfigFile tools files localConfigPath
      else
        match home.map homeConfigPath with
        | none => return .standard
        | some path => if ← files.isPresent path then loadConfigFile tools files path else return .standard

/-! ### Commands -/

/-- The diagram in a file, which has to be free of faults. -/
def loadInput (input : String) : ExceptT Failure m (Diagram Float32) := do
  let source ← readFile files input
  let diagram ← MonadExcept.ofExcept (loadDiagram tools.readDocument source)
  MonadExcept.ofExcept diagram.check
  return diagram

/-- Render a document: first the SVG is written, then the PNG, each if it is asked for. -/
def runRender (config : AppConfig Float32) (options : RenderOptions) : ExceptT Failure m Unit := do
  let diagram ← loadInput tools files options.input
  let svg ← MonadExcept.ofExcept (Renderer.svg ⟨config, tools.engine⟩ diagram)
  let base := options.output.getD (outputBase options.input)
  if options.format.includesSvg then writeFile files (base ++ ".svg") svg.toUTF8
  if options.format.includesPng then
    let bytes ← MonadExcept.ofExcept
      ((tools.picture svg (options.dpi.getD diagram.dpi)).mapError Failure.picture)
    writeFile files (base ++ ".png") bytes

/-- Carry out a command.  `home` is the directory for configurations. -/
def runCommand (home : Option String) (arguments : Arguments) : ExceptT Failure m Unit := do
  let config ← loadConfig tools files home arguments.config
  match arguments.command with
  | .validate input =>
      let _ ← loadInput tools files input
      return ()
  | .render options => runRender tools files config options

end BoxDiagram
