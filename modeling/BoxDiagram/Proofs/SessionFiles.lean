/-
Module: BoxDiagram.Proofs.SessionFiles
Purpose: The files that a command leaves behind, whatever tools read, lay out and paint.  Nothing is written before the
  document has been read, checked and drawn, and then exactly the pictures that are asked for.
Main exports: loadConfig_keeps, outcome_loadInput, Failure.precedesWriting, FileSystem.Rendered, RenderEnd,
  runRender_end, runRender_completes, FileSystem.Draws, RenderFiles, runCommand_files, renderShop_files
-/
import BoxDiagram.Proofs.FileSystem
import BoxDiagram.Proofs.PlacementSteps

namespace BoxDiagram

theorem ok_bind {ε β γ : Type} (value : β) (next : β → Except ε γ) : .ok value >>= next = next value := rfl

theorem mapError_eq_error_iff {ε φ β : Type} {result : Except ε β} {f : ε → φ} {fault : φ} :
    result.mapError f = .error fault ↔ ∃ cause, result = .error cause ∧ f cause = fault := by
  cases result with
  | error cause => simp [Except.mapError]
  | ok value => simp [Except.mapError]

variable {σ ν : Type} (tools : Toolkit) (fs : FileSystem σ ν)

/-! ### Reading -/

theorem loadConfigFile_keeps (path : String) : Keeps (loadConfigFile tools fs.access path) := by
  refine (fs.keeps_isPresent path).bind fun isThere => ?_
  cases isThere with
  | false =>
      refine (keeps_throw _).bind fun _ => (fs.keeps_readFile path).bind fun text => ?_
      cases tools.readConfig? text with
      | some config => exact keeps_pure config
      | none => exact keeps_throw _
  | true =>
      refine (fs.keeps_readFile path).bind fun text => ?_
      cases tools.readConfig? text with
      | some config => exact keeps_pure config
      | none => exact keeps_throw _

/-- Looking for a configuration and reading it changes no file. -/
theorem loadConfig_keeps (home named : Option String) : Keeps (loadConfig tools fs.access home named) := by
  cases named with
  | some path => exact loadConfigFile_keeps tools fs path
  | none =>
      refine (fs.keeps_isPresent localConfigPath).bind fun isLocal => ?_
      cases isLocal with
      | true => exact loadConfigFile_keeps tools fs localConfigPath
      | false =>
          cases home.map homeConfigPath with
          | none => exact keeps_pure _
          | some path =>
              refine (fs.keeps_isPresent path).bind fun isThere => ?_
              cases isThere with
              | true => exact loadConfigFile_keeps tools fs path
              | false => exact keeps_pure _

namespace FileSystem

/-- The diagram in the file at a path, which has to be free of faults. -/
def diagram (s : σ) (path : String) : Except Failure (Diagram Float32) := do
  let source ← (fs.text s path).mapError fun fault => .io fault.message
  let diagram ← loadDiagram tools.readDocument source
  diagram.check
  return diagram

/-- The diagram in the file at a path with its drawing as an SVG text. -/
def drawing (config : AppConfig Float32) (s : σ) (path : String) : Except Failure (Diagram Float32 × String) := do
  let diagram ← fs.diagram tools s path
  let svg ← Renderer.svg ⟨config, tools.engine⟩ diagram
  return (diagram, svg)

end FileSystem

/-- Loading a document gives the diagram in the file and changes no file. -/
theorem outcome_loadInput (path : String) (s : σ) :
    outcome (loadInput tools fs.access path) s = (fs.diagram tools s path, s) := by
  simp only [loadInput, outcome_bind, fs.outcome_readFile, outcome_ofExcept, outcome_pure, FileSystem.diagram]
  cases fs.text s path with
  | error fault => rfl
  | ok source =>
      dsimp only [Except.mapError]
      rw [ok_bind]
      cases parsed : loadDiagram tools.readDocument source with
      | error failure => rfl
      | ok diagram =>
          rw [ok_bind]
          dsimp only
          cases diagram.check <;> rfl

/-! ### Writing -/

/-- The failures that arise before anything is written. -/
def Failure.precedesWriting : Failure → Bool
  | .config _ | .parse _ _ | .validation _ | .layout _ => true
  | .io _ | .picture _ => false

/-- A file is written, or the writing fails and changes nothing. -/
theorem writeFile_end (path : String) (bytes : ByteArray) (before : σ) :
    (∃ after, outcome (writeFile fs.access path bytes) before = (.ok (), after) ∧ fs.Wrote before path bytes after) ∨
      ∃ failure : Failure, failure.precedesWriting = false ∧
        outcome (writeFile fs.access path bytes) before = (.error failure, before) := by
  rw [fs.outcome_writeFile]
  cases written : fs.write before path bytes with
  | ok after => exact .inl ⟨after, rfl, fs.write_contents written⟩
  | error fault => exact .inr ⟨.io fault.message, rfl, rfl⟩

/-- The writing of a picture that may not be possible. -/
def writePicture (path : String) (picture : Except ExportFault ByteArray) : ExceptT Failure (StateM σ) Unit := do
  let bytes ← MonadExcept.ofExcept (picture.mapError Failure.picture)
  writeFile fs.access path bytes

/-- A picture is written, or there is none or the writing fails, and nothing changes. -/
theorem writePicture_end (path : String) (picture : Except ExportFault ByteArray) (before : σ) :
    (∃ bytes after, picture = .ok bytes ∧ outcome (writePicture fs path picture) before = (.ok (), after) ∧
        fs.Wrote before path bytes after) ∨
      ∃ failure : Failure, failure.precedesWriting = false ∧
        outcome (writePicture fs path picture) before = (.error failure, before) := by
  rw [writePicture, outcome_bind, outcome_ofExcept]
  cases picture with
  | error fault => exact .inr ⟨.picture fault, rfl, rfl⟩
  | ok bytes =>
      rcases writeFile_end fs path bytes before with ⟨after, ends, wrote⟩ | failed
      · exact .inl ⟨bytes, after, rfl, ends, wrote⟩
      · exact .inr failed

/-- Exactly the pictures of this format are written, the SVG text before the other one. -/
def FileSystem.Rendered (format : OutputFormat) (base svg : String) (picture : Except ExportFault ByteArray)
    (before after : σ) : Prop :=
  match format with
  | .svg => fs.Wrote before (base ++ ".svg") svg.toUTF8 after
  | .png => ∃ bytes, picture = .ok bytes ∧ fs.Wrote before (base ++ ".png") bytes after
  | .both => ∃ bytes between, picture = .ok bytes ∧ fs.Wrote before (base ++ ".svg") svg.toUTF8 between ∧
      fs.Wrote between (base ++ ".png") bytes after

/-! ### Rendering -/

/-- The path of the pictures, up to their endings. -/
def RenderOptions.base (options : RenderOptions) : String := options.output.getD (outputBase options.input)

/-- The ways in which rendering can end: the document gives no drawing, and nothing has changed; something fails later,
and nothing has changed or, where both pictures are asked for, the first one has been written; or all pictures have been
written. -/
inductive RenderEnd (config : AppConfig Float32) (options : RenderOptions) (before : σ) :
    Except Failure Unit × σ → Prop where
  | undrawn {failure : Failure} (fails : fs.drawing tools config before options.input = .error failure) :
      RenderEnd config options before (.error failure, before)
  | unwritten {failure : Failure} {diagram : Diagram Float32} {svg : String}
      (drawn : fs.drawing tools config before options.input = .ok (diagram, svg))
      (late : failure.precedesWriting = false) :
      RenderEnd config options before (.error failure, before)
  | halfWritten {failure : Failure} {diagram : Diagram Float32} {svg : String} {after : σ}
      (drawn : fs.drawing tools config before options.input = .ok (diagram, svg))
      (late : failure.precedesWriting = false) (both : options.format = .both)
      (wrote : fs.Wrote before (options.base ++ ".svg") svg.toUTF8 after) :
      RenderEnd config options before (.error failure, after)
  | written {diagram : Diagram Float32} {svg : String} {after : σ}
      (drawn : fs.drawing tools config before options.input = .ok (diagram, svg))
      (rendered : fs.Rendered options.format options.base svg (tools.picture svg (options.dpi.getD diagram.dpi))
        before after) :
      RenderEnd config options before (.ok (), after)

/-- The writing of the pictures of a drawing, by their format. -/
def writePictures (format : OutputFormat) (base svg : String) (picture : Except ExportFault ByteArray) :
    ExceptT Failure (StateM σ) Unit :=
  match format with
  | .svg => do
      writeFile fs.access (base ++ ".svg") svg.toUTF8
      return ()
  | .png => writePicture fs (base ++ ".png") picture
  | .both => do
      writeFile fs.access (base ++ ".svg") svg.toUTF8
      writePicture fs (base ++ ".png") picture

theorem runRender_eq (config : AppConfig Float32) (options : RenderOptions) :
    runRender tools fs.access config options = (do
      let diagram ← loadInput tools fs.access options.input
      let svg ← MonadExcept.ofExcept (Renderer.svg ⟨config, tools.engine⟩ diagram)
      writePictures fs options.format options.base svg (tools.picture svg (options.dpi.getD diagram.dpi))) := by
  obtain ⟨input, format, output, dpi⟩ := options
  cases format <;> rfl

/-- The writing of the pictures succeeds, or it fails before or after the first one of two. -/
theorem writePictures_end (format : OutputFormat) (base svg : String) (picture : Except ExportFault ByteArray)
    (before : σ) :
    (∃ after, outcome (writePictures fs format base svg picture) before = (.ok (), after) ∧
        fs.Rendered format base svg picture before after) ∨
      ∃ (failure : Failure) (after : σ), failure.precedesWriting = false ∧
        outcome (writePictures fs format base svg picture) before = (.error failure, after) ∧
        (after = before ∨ format = .both ∧ fs.Wrote before (base ++ ".svg") svg.toUTF8 after) := by
  cases format with
  | svg =>
      rw [writePictures, outcome_bind]
      rcases writeFile_end fs (base ++ ".svg") svg.toUTF8 before with ⟨after, ends, wrote⟩ | ⟨failure, late, ends⟩
      · rw [ends]
        exact .inl ⟨after, rfl, wrote⟩
      · rw [ends]
        exact .inr ⟨failure, before, late, rfl, .inl rfl⟩
  | png =>
      rcases writePicture_end fs (base ++ ".png") picture before with
        ⟨bytes, after, possible, ends, wrote⟩ | ⟨failure, late, ends⟩
      · exact .inl ⟨after, ends, bytes, possible, wrote⟩
      · exact .inr ⟨failure, before, late, ends, .inl rfl⟩
  | both =>
      rw [writePictures, outcome_bind]
      rcases writeFile_end fs (base ++ ".svg") svg.toUTF8 before with ⟨between, ends, first⟩ | ⟨failure, late, ends⟩
      · rw [ends]
        dsimp only
        rcases writePicture_end fs (base ++ ".png") picture between with
          ⟨bytes, after, possible, ends, second⟩ | ⟨failure, late, ends⟩
        · exact .inl ⟨after, ends, bytes, between, possible, first, second⟩
        · exact .inr ⟨failure, between, late, ends, .inr ⟨rfl, first⟩⟩
      · rw [ends]
        exact .inr ⟨failure, before, late, rfl, .inl rfl⟩

/-- The files that a format asks for, in the order in which they are written. -/
def OutputFormat.files (format : OutputFormat) (base svg : String) (picture : Except ExportFault ByteArray) :
    Except ExportFault (List (String × ByteArray)) :=
  match format with
  | .svg => .ok [(base ++ ".svg", svg.toUTF8)]
  | .png => picture.map fun bytes => [(base ++ ".png", bytes)]
  | .both => picture.map fun bytes => [(base ++ ".svg", svg.toUTF8), (base ++ ".png", bytes)]

/-- The state after files have been written one after the other. -/
def FileSystem.writeAll (before : σ) (files : List (String × ByteArray)) : Except FileFault σ :=
  files.foldlM (fun s file => fs.write s file.1 file.2) before

theorem FileSystem.writeAll_cons_eq_ok {before after : σ} {file : String × ByteArray}
    {rest : List (String × ByteArray)} (written : fs.writeAll before (file :: rest) = .ok after) :
    ∃ between, fs.write before file.1 file.2 = .ok between ∧ fs.writeAll between rest = .ok after := by
  rw [writeAll, List.foldlM_cons] at written
  exact bind_eq_ok_iff.mp written

/-- The writing of the pictures succeeds if there is a picture where one is asked for, and every file can be
written. -/
theorem writePictures_completes {format : OutputFormat} {base svg : String} {picture : Except ExportFault ByteArray}
    {files : List (String × ByteArray)} {before after : σ} (painted : format.files base svg picture = .ok files)
    (written : fs.writeAll before files = .ok after) :
    outcome (writePictures fs format base svg picture) before = (.ok (), after) := by
  cases format with
  | svg =>
      cases painted
      obtain ⟨between, wrote, rest⟩ := fs.writeAll_cons_eq_ok written
      cases rest
      rw [writePictures, outcome_bind, fs.outcome_writeFile, wrote]
      rfl
  | png =>
      obtain ⟨bytes, possible, rfl⟩ := map_eq_ok_iff.mp painted
      obtain ⟨between, wrote, rest⟩ := fs.writeAll_cons_eq_ok written
      cases rest
      rw [writePictures, writePicture, outcome_bind, outcome_ofExcept, possible]
      dsimp only [Except.mapError]
      rw [fs.outcome_writeFile, wrote]
  | both =>
      obtain ⟨bytes, possible, rfl⟩ := map_eq_ok_iff.mp painted
      obtain ⟨between, wroteFirst, rest⟩ := fs.writeAll_cons_eq_ok written
      obtain ⟨last, wroteSecond, rest⟩ := fs.writeAll_cons_eq_ok rest
      cases rest
      rw [writePictures, outcome_bind, fs.outcome_writeFile, wroteFirst]
      dsimp only
      rw [writePicture, outcome_bind, outcome_ofExcept, possible]
      dsimp only [Except.mapError]
      rw [fs.outcome_writeFile, wroteSecond]

/-- Rendering draws the document, and then it writes the pictures. -/
theorem outcome_runRender (config : AppConfig Float32) (options : RenderOptions) (before : σ) :
    outcome (runRender tools fs.access config options) before =
      match fs.drawing tools config before options.input with
      | .error failure => (.error failure, before)
      | .ok (diagram, svg) => outcome (writePictures fs options.format options.base svg
          (tools.picture svg (options.dpi.getD diagram.dpi))) before := by
  rw [runRender_eq, outcome_bind, outcome_loadInput, FileSystem.drawing]
  cases fs.diagram tools before options.input with
  | error failure => rfl
  | ok diagram =>
      dsimp only
      rw [outcome_bind, outcome_ofExcept, ok_bind]
      cases Renderer.svg ⟨config, tools.engine⟩ diagram <;> rfl

/-- Rendering ends in one of these ways. -/
theorem runRender_end (config : AppConfig Float32) (options : RenderOptions) (before : σ) :
    RenderEnd tools fs config options before (outcome (runRender tools fs.access config options) before) := by
  rw [outcome_runRender]
  cases drawn : fs.drawing tools config before options.input with
  | error failure => exact .undrawn drawn
  | ok found =>
      obtain ⟨diagram, svg⟩ := found
      dsimp only
      rcases writePictures_end fs options.format options.base svg (tools.picture svg (options.dpi.getD diagram.dpi))
        before with ⟨after, ends, rendered⟩ | ⟨failure, after, late, ends, rfl | ⟨isBoth, wrote⟩⟩
      · rw [ends]
        exact .written drawn rendered
      · rw [ends]
        exact .unwritten drawn late
      · rw [ends]
        exact .halfWritten drawn late isBoth wrote

/-- With a configuration rendering succeeds, if the document is drawn, there is a picture where one is asked for, and
every file can be written. -/
def Completes (config : Except Failure (AppConfig Float32)) (options : RenderOptions) (before : σ)
    (finish : Except Failure Unit × σ) : Prop :=
  ∀ c diagram svg files after, config = .ok c → fs.drawing tools c before options.input = .ok (diagram, svg) →
    options.format.files options.base svg (tools.picture svg (options.dpi.getD diagram.dpi)) = .ok files →
    fs.writeAll before files = .ok after → finish = (.ok (), after)

theorem runRender_completes (config : AppConfig Float32) (options : RenderOptions) (before : σ) :
    Completes tools fs (.ok config) options before
      (outcome (runRender tools fs.access config options) before) := by
  rintro _ diagram svg files after ⟨⟩ drawn painted written
  rw [outcome_runRender, drawn]
  exact writePictures_completes fs painted written

/-! ### Main result -/

/-- The file at the path holds the document of a diagram without faults, and this is its drawing in the configuration. -/
structure FileSystem.Draws (config : AppConfig Float32) (s : σ) (path : String) (diagram : Diagram Float32)
    (svg : String) : Prop where
  document : ∃ bytes source, fs.Holds s path bytes ∧ String.fromUTF8? bytes = some source ∧
    loadDiagram tools.readDocument source = .ok diagram
  valid : diagram.validate = []
  drawn : Renderer.svg ⟨config, tools.engine⟩ diagram = .ok svg

theorem validate_of_check {d : Diagram Float32} {done : Unit} (checked : d.check = .ok done) : d.validate = [] := by
  rw [Diagram.check] at checked
  split at checked
  · assumption
  · cases checked

theorem FileSystem.draws_of_drawing {config : AppConfig Float32} {s : σ} {path svg : String}
    {diagram : Diagram Float32} (drawn : fs.drawing tools config s path = .ok (diagram, svg)) :
    fs.Draws tools config s path diagram svg := by
  obtain ⟨loaded, isLoaded, rest⟩ := bind_eq_ok_iff.mp drawn
  obtain ⟨text, isDrawn, same⟩ := bind_eq_ok_iff.mp rest
  obtain ⟨source, isRead, rest⟩ := bind_eq_ok_iff.mp isLoaded
  obtain ⟨parsed, isParsed, rest⟩ := bind_eq_ok_iff.mp rest
  obtain ⟨done, isChecked, sameDiagram⟩ := bind_eq_ok_iff.mp rest
  cases pure_eq_ok_iff.mp same
  cases pure_eq_ok_iff.mp sameDiagram
  refine ⟨?_, validate_of_check isChecked, isDrawn⟩
  cases found : fs.text s path with
  | error fault =>
      rw [found] at isRead
      cases isRead
  | ok text =>
      rw [found] at isRead
      cases isRead
      obtain ⟨bytes, holds, decoded⟩ := fs.text_eq_ok found
      exact ⟨bytes, source, holds, decoded, isParsed⟩

/-- An input that is drawn has a text. -/
theorem FileSystem.text_ne_error_of_drawing {config : AppConfig Float32} {s : σ} {path : String}
    {found : Diagram Float32 × String} (drawn : fs.drawing tools config s path = .ok found) (fault : FileFault) :
    fs.text s path ≠ .error fault := by
  intro unreadable
  rw [drawing, diagram, unreadable] at drawn
  cases drawn

/-- What rendering with a configuration, or with a failure to load one, leaves behind. -/
structure RenderFiles (config : Except Failure (AppConfig Float32)) (options : RenderOptions) (before : σ)
    (result : Except Failure Unit) (after : σ) : Prop where
  /-- Without a configuration no file changes. -/
  unconfigured : ∀ failure, config = .error failure → result = .error failure ∧ after = before
  /-- Where the input cannot be read, rendering fails and no file changes. -/
  unreadable : ∀ fault, fs.text before options.input = .error fault →
    (∃ failure, result = .error failure) ∧ after = before
  /-- A failure with the configuration, in the document, in the validation or in the layout changes no file. -/
  early : ∀ failure : Failure, result = .error failure → failure.precedesWriting = true → after = before
  /-- Whatever fails, at most the SVG file has changed, and only where both pictures are asked for. -/
  failed : ∀ failure : Failure, result = .error failure → after = before ∨ options.format = .both ∧
    ∃ c diagram svg, config = .ok c ∧ fs.Draws tools c before options.input diagram svg ∧
      fs.Wrote before (options.base ++ ".svg") svg.toUTF8 after
  /-- Rendering that succeeds has written exactly the pictures that are asked for, and the SVG text is the drawing of
  the diagram in the input. -/
  succeeded : result = .ok () → ∃ c diagram svg, config = .ok c ∧
    fs.Draws tools c before options.input diagram svg ∧
    fs.Rendered options.format options.base svg (tools.picture svg (options.dpi.getD diagram.dpi)) before after
  /-- Rendering succeeds where nothing fails. -/
  completes : Completes tools fs config options before (result, after)

/-- A failure that changes no file is in order, if it is that of the configuration where there is none, and if rendering
cannot be completed. -/
theorem renderFiles_of_unchanged {config : Except Failure (AppConfig Float32)} {options : RenderOptions} {before : σ}
    {failure : Failure} (unconfigured : ∀ other, config = .error other → failure = other)
    (completes : Completes tools fs config options before (.error failure, before)) :
    RenderFiles tools fs config options before (.error failure) before where
  unconfigured other missing := ⟨congrArg _ (unconfigured other missing), rfl⟩
  unreadable _ _ := ⟨⟨failure, rfl⟩, rfl⟩
  early _ _ _ := rfl
  failed _ _ := .inl rfl
  succeeded succeeds := by cases succeeds
  completes := completes

/-- What the ways in which rendering can end leave behind. -/
theorem RenderEnd.files {config : AppConfig Float32} {options : RenderOptions} {before : σ}
    {finish : Except Failure Unit × σ} (ends : RenderEnd tools fs config options before finish)
    (completes : Completes tools fs (.ok config) options before finish) :
    RenderFiles tools fs (.ok config) options before finish.1 finish.2 := by
  cases ends with
  | undrawn fails => exact renderFiles_of_unchanged tools fs (fun _ missing => nomatch missing) completes
  | unwritten drawn late => exact renderFiles_of_unchanged tools fs (fun _ missing => nomatch missing) completes
  | @halfWritten failure diagram svg after drawn late both wrote =>
      exact {
        unconfigured := fun _ missing => nomatch missing
        unreadable := fun fault unreadable => absurd unreadable (fs.text_ne_error_of_drawing tools drawn fault)
        early := by
          intro other same early
          cases same
          exact absurd (early.symm.trans late) Bool.noConfusion
        failed := fun _ _ => .inr ⟨both, config, diagram, svg, rfl, fs.draws_of_drawing tools drawn, wrote⟩
        succeeded := fun succeeds => nomatch succeeds
        completes := completes }
  | @written diagram svg after drawn rendered =>
      exact {
        unconfigured := fun _ missing => nomatch missing
        unreadable := fun fault unreadable => absurd unreadable (fs.text_ne_error_of_drawing tools drawn fault)
        early := fun _ fails => nomatch fails
        failed := fun _ fails => nomatch fails
        succeeded := fun _ => ⟨config, diagram, svg, rfl, fs.draws_of_drawing tools drawn, rendered⟩
        completes := completes }

/-- What a command leaves behind: validating changes no file, and it succeeds for documents in order only; rendering
writes nothing before it is sure, and all pictures that are asked for if nothing fails. -/
theorem runCommand_files (home : Option String) (arguments : Arguments) (before : σ) :
    match arguments.command with
    | .validate input =>
        (outcome (runCommand tools fs.access home arguments) before).2 = before ∧
          ((outcome (runCommand tools fs.access home arguments) before).1 = .ok () ↔
            ∃ c diagram, (outcome (loadConfig tools fs.access home arguments.config) before).1 = .ok c ∧
              fs.diagram tools before input = .ok diagram)
    | .render options =>
        RenderFiles tools fs (outcome (loadConfig tools fs.access home arguments.config) before).1 options before
          (outcome (runCommand tools fs.access home arguments) before).1
          (outcome (runCommand tools fs.access home arguments) before).2 := by
  obtain ⟨command, named, logLevel⟩ := arguments
  have configured : outcome (loadConfig tools fs.access home named) before =
      ((outcome (loadConfig tools fs.access home named) before).1, before) :=
    Prod.ext rfl (loadConfig_keeps tools fs home named before)
  rw [runCommand, outcome_bind]
  dsimp only
  generalize (outcome (loadConfig tools fs.access home named) before).1 = config at configured ⊢
  rw [configured]
  cases config with
  | error failure =>
      cases command with
      | validate input => simp
      | render options =>
          refine renderFiles_of_unchanged tools fs (fun other same => Except.error.inj same) ?_
          rintro _ _ _ _ _ ⟨⟩
  | ok config =>
      cases command with
      | validate input =>
          dsimp only
          rw [outcome_bind, outcome_loadInput]
          cases fs.diagram tools before input with
          | error failure => simp
          | ok diagram => simp [outcome_pure]
      | render options =>
          exact (runRender_end tools fs config options before).files tools fs
            (runRender_completes tools fs config options before)

/-- A document with an edge between two boxes, and a configuration. -/
def shop : Directory :=
  ⟨[(["shop.boxes.yaml"], "diagram: Shop\nboxes:\n  Till:\n  Store:\nedges:\n  - { from: Till, to: Store }\n".toUTF8),
    (["boxes", "config.toml"], "[layout]\nnode_spacing = 50.0\n".toUTF8)]⟩

def shopArguments (format : OutputFormat) (dpi : Option Nat) : Arguments :=
  ⟨.render ⟨"shop.boxes.yaml", format, none, dpi⟩, none, "info"⟩

/-- With no pixels to the inch, every picture is empty. -/
def withoutPixels : Toolkit := .standard fun _ _ => .error (.render "Cannot allocate a 0x0 pixmap")

/-- Rendering the document in a format, with so many pixels to the inch. -/
def renderShop (format : OutputFormat) (dpi : Option Nat) : Except Failure Unit × Directory :=
  outcome (runCommand withoutPixels Directory.access none (shopArguments format dpi)) shop

/-- The drawing of the document has been written, and nothing else. -/
def WroteShop (after : Directory) : Prop :=
  ∃ config diagram svg, (outcome (loadConfig withoutPixels Directory.access none none) shop).1 = .ok config ∧
    Directory.fileSystem.Draws withoutPixels config shop "shop.boxes.yaml" diagram svg ∧
    Directory.fileSystem.Wrote shop "shop.svg" svg.toUTF8 after

/-- As SVG alone the document is rendered.  With a picture of no pixels to the inch rendering fails, after the SVG text
has been written. -/
theorem renderShop_files :
    (renderShop .svg none).1 = .ok () ∧ WroteShop (renderShop .svg none).2 ∧
      (renderShop .both (some 0)).1.mapError Failure.message =
        .error "Export error: Render error: Cannot allocate a 0x0 pixmap" ∧
      WroteShop (renderShop .both (some 0)).2 := by
  have alone := runCommand_files withoutPixels Directory.fileSystem none (shopArguments .svg none) shop
  have both := runCommand_files withoutPixels Directory.fileSystem none (shopArguments .both (some 0)) shop
  rw [Directory.fileSystem_access] at alone both
  have succeeds : (renderShop .svg none).1 = .ok () := eq_ok_of_toOption_eq_some (by decide +kernel)
  have fails : (renderShop .both (some 0)).1.mapError Failure.message =
        .error "Export error: Render error: Cannot allocate a 0x0 pixmap" ∧
      (renderShop .both (some 0)).2.files.length ≠ shop.files.length := by
    decide +kernel
  refine ⟨succeeds, ?_, fails.1, ?_⟩
  · obtain ⟨config, diagram, svg, configured, draws, wrote⟩ := RenderFiles.succeeded alone succeeds
    exact ⟨config, diagram, svg, configured, draws, wrote⟩
  · obtain ⟨failure, failed, _⟩ := mapError_eq_error_iff.mp fails.1
    rcases RenderFiles.failed both failure failed with unchanged | ⟨_, config, diagram, svg, configured, draws, wrote⟩
    · have same : (renderShop .both (some 0)).2 = shop := unchanged
      rw [same] at fails
      exact absurd rfl fails.2
    · exact ⟨config, diagram, svg, configured, draws, wrote⟩

end BoxDiagram
