/-
Module: BoxDiagram.Main
Purpose: The program: it reads its command line, carries out the command on the files of the system, and shows
  failures.  It has no painter, so that asking for a PNG ends in a failure once the size of the picture is known.
Main exports: main
-/
import BoxDiagram.CommandLine.Session
import BoxDiagram.Report

namespace BoxDiagram

/-- The fault that an error of the system stands for. -/
def FileFault.ofError : IO.Error → FileFault
  | .noFileOrDirectory _ _ _ => .notFound
  | .inappropriateType _ 20 _ => .notADirectory
  | .inappropriateType _ 21 _ => .isADirectory
  | error => .other (toString error)

def systemFiles : FileAccess IO where
  read path := do
    try return .ok (← IO.FS.readBinFile path)
    catch error => return .error (.ofError error)
  write path bytes := do
    try
      IO.FS.writeBinFile path bytes
      return .ok ()
    catch error => return .error (.ofError error)

/-- The directory for configurations: the one the environment names, or `.config` in the home of the user. -/
def configHome : IO (Option String) := do
  match ← IO.getEnv "XDG_CONFIG_HOME" with
  | some path => if path.startsWith "/" then return some path
  | none => pure ()
  return (← IO.getEnv "HOME").map (· ++ "/.config")

def usage : String :=
  Text.joinWith "\n"
    ["Usage: boxes [OPTIONS] <COMMAND>", "",
      "Commands:",
      "  render <INPUT>    Render a .boxes.yaml file to SVG and/or PNG",
      "  validate <INPUT>  Validate a .boxes.yaml file without rendering",
      "  help              Print this message", "",
      "Options:",
      "  -f, --format <FORMAT>  Output format: svg, png or both",
      "  -o, --output <OUTPUT>  Output path without extension",
      "      --dpi <DPI>        PNG resolution",
      "  -c, --config <CONFIG>  Path to configuration file (TOML)",
      "      --log-level <LOG_LEVEL>  Log level (off, error, warn, info, debug, trace)",
      "  -h, --help             Print help",
      "  -V, --version          Print version"]

/-- Show why a command line is not carried out; the answer is the exit code. -/
def showRefusal : Refusal → IO UInt32
  | .helpWanted => do IO.println usage; return 0
  | .versionWanted => do IO.println "boxes 0.1.0"; return 0
  | _ => do IO.eprintln usage; return 2

/-- Show a failure; the answer is the exit code. -/
def showFailure (failure : Failure) : IO UInt32 := do
  let report := failure.report
  IO.eprintln (report.code ++ "\n\n  " ++ report.text)
  if let some span := report.span then IO.eprintln ("  " ++ span.remark ++ ": byte " ++ toString span.offset)
  if let some help := report.help then IO.eprintln ("  help: " ++ help)
  return 1

end BoxDiagram

open BoxDiagram in
def main (words : List String) : IO UInt32 := do
  match readArguments ("boxes" :: words) with
  | .error refusal => showRefusal refusal
  | .ok arguments =>
      match ← (runCommand (.standard (exportPng .measuring)) systemFiles (← configHome) arguments).run with
      | .ok () => return 0
      | .error failure => showFailure failure
