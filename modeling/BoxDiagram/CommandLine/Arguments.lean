/-
Module: BoxDiagram.CommandLine.Arguments
Purpose: The words of a command line and the command they stand for.
Main exports: OutputFormat, RenderOptions, Command, Arguments, Refusal, readArguments
-/
import BoxDiagram.Number.Reading
import BoxDiagram.Text.Split

namespace BoxDiagram

/-- Which pictures are written. -/
inductive OutputFormat where
  | svg
  | png
  | both
deriving Repr, DecidableEq, Inhabited

namespace OutputFormat

def includesSvg (f : OutputFormat) : Bool := f == svg || f == both

def includesPng (f : OutputFormat) : Bool := f == png || f == both

def ofWord? : String → Option OutputFormat
  | "svg" => some svg
  | "png" => some png
  | "both" => some both
  | _ => none

end OutputFormat

/-- What to render, and how. -/
structure RenderOptions where
  input : String
  format : OutputFormat
  output : Option String
  dpi : Option Nat
deriving Repr, DecidableEq, Inhabited

/-- What to do. -/
inductive Command where
  | render (options : RenderOptions)
  | validate (input : String)
deriving Repr, DecidableEq, Inhabited

/-- A command line that has been understood. -/
structure Arguments where
  command : Command
  config : Option String
  logLevel : String
deriving Repr, DecidableEq, Inhabited

/-- Why a command line is not carried out. -/
inductive Refusal where
  | helpWanted
  | versionWanted
  | nothingGiven
  | missingCommand
  | unknownCommand
  | unknownArgument
  | missingInput
  | badValue
  | badNumber
  | repeatedOption
  | needlessValue
deriving Repr, DecidableEq, Inhabited

/-! ### Options -/

/-- The options of all commands. -/
inductive OptionName where
  | config
  | logLevel
  | format
  | output
  | dpi
  | help
  | version
deriving Repr, DecidableEq, Inhabited

namespace OptionName

def long : OptionName → String
  | config => "config"
  | logLevel => "log-level"
  | format => "format"
  | output => "output"
  | dpi => "dpi"
  | help => "help"
  | version => "version"

/-- The letter after one hyphen, for options that have one. -/
def short? : OptionName → Option Char
  | config => some 'c'
  | format => some 'f'
  | output => some 'o'
  | help => some 'h'
  | version => some 'V'
  | logLevel | dpi => none

/-- What is wanted with an option that takes no value. -/
def wish? : OptionName → Option Refusal
  | help => some .helpWanted
  | version => some .versionWanted
  | _ => none

end OptionName

/-- A whole number of 32 bits, with an optional sign. -/
def readDpi? (text : String) : Option Nat :=
  let (negative, digits) := spanSign text.toList
  if digits.isEmpty || !digits.all Char.isDigit then none
  else
    let n := digitsValue digits
    if n < powerOfTwo 32 && (!negative || n == 0) then some n else none

/-- What is wrong with the value of an option. -/
def OptionName.refuse? (option : OptionName) (value : String) : Option Refusal :=
  match option with
  | format => if (OutputFormat.ofWord? value).isNone then some .badValue else none
  | dpi => if (readDpi? value).isNone then some .badNumber else none
  | _ => none

/-! ### Words -/

/-- A part of a command line that is read with the same options: the words before the command, or those after
it. -/
structure Level where
  options : List OptionName
  commands : List String
  takesInput : Bool

/-- The words before the command.  `help` is a command of its own. -/
def Level.outer : Level := ⟨[.config, .logLevel, .help, .version], ["render", "validate", "help"], false⟩

def Level.render : Level := ⟨[.format, .output, .dpi, .config, .logLevel, .help], [], true⟩

def Level.validate : Level := ⟨[.config, .logLevel, .help], [], true⟩

/-- What has been read of a level.  The last option is settled only when the next word has been seen. -/
structure Reading where
  given : List (OptionName × String)
  pending : Option (OptionName × Option String)
  input : Option String
  /-- Has `--` been seen?  Then all words are taken as they are. -/
  verbatim : Bool

namespace Reading

def start : Reading := ⟨[], none, none, false⟩

/-- Does the next word belong to an option? -/
def awaitsValue (r : Reading) : Bool := !r.verbatim && r.pending.any fun p => p.2.isNone

/-- The value that an option was given. -/
def value? (r : Reading) (option : OptionName) : Option String :=
  (r.given.find? fun p => p.1 = option).map (·.2)

/-- Give an option its value.  An option occurs once. -/
def give (r : Reading) (option : OptionName) (value : String) : Except Refusal Reading :=
  if (r.value? option).isSome then .error .repeatedOption
  else
    match option.refuse? value with
    | some refusal => .error refusal
    | none => .ok { r with given := r.given ++ [(option, value)] }

def settle (r : Reading) : Except Refusal Reading :=
  match r.pending with
  | none => .ok r
  | some (_, none) => .error .badValue
  | some (option, some value) => { r with pending := none }.give option value

/-- Take an option, with its value if that is part of the same word. -/
def take (r : Reading) (option : OptionName) (value : Option String) : Except Refusal Reading := do
  let r ← r.settle
  match value with
  | some value => r.give option value
  | none => return { r with pending := some (option, none) }

/-- Take a word with two hyphens: a name, and a value after an equals sign. -/
def takeLong (level : Level) (r : Reading) (word : String) : Except Refusal Reading :=
  let (name, value) := match Text.splitFirst? '=' word with
    | some (name, value) => (name, some value)
    | none => (word, none)
  match level.options.find? fun o => o.long = name with
  | none => .error .unknownArgument
  | some option =>
      match option.wish?, value with
      | none, value => r.take option value
      | some _, some _ => .error .needlessValue
      | some wish, none => do
          let _ ← r.settle
          .error wish

/-- Take a word with one hyphen: a letter, and a value right after it or after an equals sign. -/
def takeShort (level : Level) (r : Reading) : List Char → Except Refusal Reading
  | [] => .ok r
  | letter :: rest =>
      match level.options.find? fun o => o.short? = some letter with
      | none => .error .unknownArgument
      | some option =>
          match option.wish? with
          | some wish => do
              let _ ← r.settle
              .error wish
          | none =>
              r.take option <| match rest with
                | [] => none
                | '=' :: value => some (String.ofList value)
                | value => some (String.ofList value)

/-- Take a word that is neither an option nor a value of one. -/
def takeInput (level : Level) (r : Reading) (word : String) : Except Refusal Reading :=
  if level.takesInput && r.input.isNone then do
    let r ← r.settle
    return { r with input := some word }
  else if level.commands.isEmpty || (r.verbatim && level.commands.contains word) then .error .unknownArgument
  else .error .unknownCommand

def takeWord (level : Level) (r : Reading) (word : String) : Except Refusal Reading :=
  if r.verbatim then r.takeInput level word
  else
    match word.toList with
    | ['-', '-'] => .ok { r with verbatim := true }
    | '-' :: '-' :: name => r.takeLong level (String.ofList name)
    | '-' :: c :: rest => r.takeShort level (c :: rest)
    | _ =>
        match r.pending with
        | some (option, none) => .ok { r with pending := some (option, some word) }
        | _ => r.takeInput level word

/-- Read the words of a level up to a command; the command and the words after it are left over. -/
def read (level : Level) (r : Reading) : List String → Except Refusal (Reading × Option (String × List String))
  | [] => .ok (r, none)
  | word :: rest =>
      if !r.verbatim && !r.awaitsValue && level.commands.contains word then .ok (r, some (word, rest))
      else do
        let r ← r.takeWord level word
        read level r rest

end Reading

/-! ### Command lines -/

/-- The level that a command reads its words with. -/
def levelAfter (command : String) : Level := if command = "render" then .render else .validate

/-- The command that the words after its name complete. -/
def completeCommand (name : String) (r : Reading) (input : String) : Command :=
  if name = "render" then
    .render
      { input := input
        format := ((r.value? .format).bind OutputFormat.ofWord?).getD .both
        output := r.value? .output
        dpi := (r.value? .dpi).bind readDpi? }
  else .validate input

/-- What the words after `help` ask for. -/
def helpRefusal : List String → Refusal
  | [] => .helpWanted
  | [word] => if Level.outer.commands.contains word then .helpWanted else .unknownCommand
  | _ => .unknownCommand

/-- Understand the words of a command line, the name of the program among them.  Configuration and log level
may stand before the command or after it; after it they have precedence. -/
def readArguments (words : List String) : Except Refusal Arguments := do
  match ← Reading.start.read .outer (words.drop 1) with
  | (outer, none) =>
      let outer ← outer.settle
      if outer.given.isEmpty then .error .nothingGiven else .error .missingCommand
  | (outer, some (name, rest)) =>
      if name = "help" then .error (helpRefusal rest)
      else
        let (inner, _) ← Reading.start.read (levelAfter name) rest
        let inner ← inner.settle
        match inner.input with
        | none => .error .missingInput
        | some input =>
            let outer ← outer.settle
            return {
              command := completeCommand name inner input
              config := (inner.value? .config).or (outer.value? .config)
              logLevel := ((inner.value? .logLevel).or (outer.value? .logLevel)).getD "info" }

end BoxDiagram
