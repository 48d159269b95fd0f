import Marginalia.CommandLine.Arguments
import Marginalia.Run.Basic
import Marginalia.SelfTest

/-!
# The program

What the command line does, as a function from the world it starts in to what
it prints and leaves behind. The code of others that it relies on is part of that
world: how environment files are read, comments rendered and texts encoded, and
what colours highlighted code has.
-/

namespace Marginalia.CommandLine

/-- How the program is called. -/
def usage : Text :=
  ("usage: docco [-h] [-o OUTPUT] [--dirs] [--no-dirs] [-q] [--self-test]\n" ++
    "             [--languages]\n" ++
    "             [inputs ...]\n").toList

/-- What the program says about itself. -/
def helpText : Text :=
  usage ++
  ("\nGenerate side-by-side HTML documentation from commented source files\n\n" ++
    "positional arguments:\n" ++
    "  inputs                Source files or directories\n\n" ++
    "options:\n" ++
    "  -h, --help            show this help message and exit\n" ++
    "  -o OUTPUT, --output OUTPUT\n" ++
    "                        Output directory (default: docs, or DOCCO_OUTPUT_DIR)\n" ++
    "  --dirs                Mirror input directories under the output\n" ++
    "  --no-dirs             Write every page flat into the output\n" ++
    "  -q, --quiet           Only print errors\n" ++
    "  --self-test           Check divider round trips against the highlighter\n" ++
    "  --languages           List supported extensions and exit\n").toList

/-- The code of others that the program relies on. -/
structure Library where
  /-- An environment together with the variables of the nearest environment file. -/
  loadEnvironment : List (Text × Text) → Disk → Except ForeignFault (List (Text × Text))
  /-- What is said about the statements of that file that cannot be read. -/
  environmentWarnings : Disk → Text
  /-- The codecs by their names. -/
  codecs : Text → Option Codec
  /-- A comment as HTML, with the extensions of these names. -/
  markup : List Text → Text → Except ForeignFault Text
  /-- The rules that give the classes of highlighted code their colours. -/
  colourRules : Text

/-- What the program starts with. -/
structure World where
  library : Library
  disk : Disk
  environment : List (Text × Text) := []
  /-- The outside programs in an environment. -/
  programs : List (Text × Text) → Runner

/-- What the program did. -/
structure Report where
  /-- The exit status, unless a failure went past the program. -/
  exit : Except Failure Nat
  out : Text := []
  err : Text := []
  calls : List Call := []
  disk : Disk

/-- The settings with what the command line asks for; an empty output directory asks for none. -/
def override (settings : Settings) (request : Request) : Settings :=
  { settings with
    outputDir := Settings.parseText request.output settings.outputDir
    nested := request.nested.getD settings.nested
    quiet := request.quiet || settings.quiet }

/-- Comment text as HTML; nothing comes of a blank text. -/
def renderDocs (library : Library) (extensions : List Text) (text : Text) : Except Failure Text :=
  if Text.isBlank text then .ok [] else (library.markup extensions text).mapError .foreign

/-- The highlighter of settings. -/
def highlighterFor (library : Library) (runner : Runner) (settings : Settings) : Highlighter where
  command := settings.command
  encoding := settings.encoding
  runner := runner
  render := renderDocs library settings.extensions
  codecs := library.codecs

/-- What documents sources under settings. -/
def generatorFor (library : Library) (runner : Runner) (settings : Settings) : Generator where
  settings := settings
  highlighter := highlighterFor library runner settings
  colourRules := library.colourRules

/-- Tests the languages of the inputs, or all of them. -/
def runSelfTest (library : Library) (disk : Disk) (runner : Runner) (settings : Settings)
    (inputs : List Text) : Report :=
  let registry := Registry.standard settings.classes
  let languages := if inputs = [] then registry.languages else inputs.filterMap registry.forPath
  let test := SelfTest.run (highlighterFor library runner settings) disk languages
  match test.result with
  | .error failure =>
    { exit := .error failure, out := printed test.notices, calls := test.calls, disk := test.disk }
  | .ok outcomes =>
    { exit := .ok (if outcomes.any (·.failure.isSome) then 2 else 0)
      out := printed test.notices ++ Text.unlines (outcomes.map Outcome.line)
      calls := test.calls
      disk := test.disk }

/-- Documents the inputs. -/
def runGenerate (library : Library) (disk : Disk) (runner : Runner) (settings : Settings)
    (inputs : List Text) : Report :=
  let (result, state) :=
    (generatorFor library runner settings).execute.run.run
      { disk, context := { pending := inputs } }
  let report : Report :=
    { exit := .ok 0, out := printed state.notices, calls := state.calls, disk := state.disk }
  match result with
  | .ok _ => report
  | .error failure =>
    if failure.isOwn then
      { report with
        exit := .ok 2
        out := report.out ++ "[ERR] ".toList ++ failure.message ++ ['\n'] }
    else { report with exit := .error failure }

/-- Does what a request asks for under settings. -/
def runWith (library : Library) (disk : Disk) (runner : Runner) (settings : Settings)
    (request : Request) : Report :=
  if request.languages then
    { exit := .ok 0, out := (Registry.standard settings.classes).listing, disk }
  else if request.selfTest then
    runSelfTest library disk runner settings request.inputs
  else if request.inputs = [] then
    { exit := .ok 2, out := "[WARN] No input files\n".toList, disk }
  else runGenerate library disk runner settings request.inputs

/-- Does what a request asks for, in the environment that the nearest environment file extends. -/
def runRequest (world : World) (request : Request) : Report :=
  let report :=
    match world.library.loadEnvironment world.environment world.disk with
    | .ok environment =>
      let settings := override (.ofEnvironment (Dict.get? · environment)) request
      runWith world.library world.disk (world.programs environment) settings request
    | .error fault => { exit := .error (.foreign fault), disk := world.disk }
  { report with err := world.library.environmentWarnings world.disk }

/-- Runs the program with arguments. -/
def run (world : World) (arguments : List Text) : Report :=
  match parse arguments with
  | .ok request => runRequest world request
  | .error .help => { exit := .ok 0, out := helpText, disk := world.disk }
  | .error (.usage fault) =>
    { exit := .ok 2
      err := usage ++ "docco: error: ".toList ++ fault.message ++ ['\n']
      disk := world.disk }

end Marginalia.CommandLine
