import Marginalia.Disk.Write
import Marginalia.Highlighter.Basic
import Marginalia.Page.Basic
import Marginalia.Page.Stylesheet
import Marginalia.Run.Context
import Marginalia.Settings.Basic

/-!
# Runs

A run turns inputs into pages, one source at a time: read, cut into sections,
highlight, lay out, write. It changes a disk, calls the highlighter and prints
notices; the first failure ends it and leaves all that was done before.

Two things are taken to succeed that a system can refuse. A notice is a value, and
printing it never fails, neither for want of an encoding nor because nobody reads
it. And the names in a directory can always be listed.
-/

namespace Marginalia

/-- What a run acts with. -/
structure Generator where
  settings : Settings
  highlighter : Highlighter
  /-- The rules that give the classes of highlighted code their colours. -/
  colourRules : Text := []

/-- What a run acts on. -/
structure RunState where
  disk : Disk
  context : Context := {}
  /-- The calls of the highlighter so far. -/
  calls : List Call := []
  /-- What was printed so far. -/
  notices : List Notice := []

/-- A step of a run: a result or a failure, and in either case the state after it. -/
abbrev Step (α : Type) := ExceptT Failure (StateM RunState) α

/-- What a whole run did. -/
structure RunResult where
  sources : List Text
  /-- The pages written, one for each source. -/
  pages : List Text
  skipped : List Text
  deriving DecidableEq, Repr

namespace Generator

/-- The languages that a run knows. -/
def registry (generator : Generator) : Registry :=
  .standard generator.settings.classes

/-- Prints a notice unless the run is quiet. -/
def report (generator : Generator) (notice : Notice) : Step Unit :=
  if generator.settings.quiet then pure ()
  else modify fun state => { state with notices := state.notices ++ [notice] }

/-- Takes over a result of the highlighter, with its calls and warnings and what it changed. -/
def absorb (traced : Traced α) : Step α := do
  modify fun state =>
    { state with
      disk := traced.disk
      calls := state.calls ++ traced.calls
      notices := state.notices ++ traced.notices }
  match traced.result with
  | .ok value => pure value
  | .error failure => throw failure

/-- Works off the queue of inputs; returns all sources found so far. -/
def collect (generator : Generator) : Step (List Text) := do
  let state ← get
  let (context, notices) := state.context.collect generator.registry state.disk
  set { state with context }
  notices.forM generator.report
  pure context.sources

/-- The text of a source. -/
def readSource (generator : Generator) (disk : Disk) (path : Text) : Except Failure Text :=
  match disk.readFile path with
  | .error (.refused cause refusedPath) => .error (.sourceRead path (.refused cause refusedPath))
  | .error fault => .error (.disk fault)
  | .ok bytes =>
    match generator.highlighter.codecs generator.settings.encoding with
    | none => .error (.unknownEncoding generator.settings.encoding)
    | some codec =>
      match codec.read bytes with
      | .error (.undecodable fault) => .error (.sourceRead path (.undecodable fault))
      | .error fault => .error (.ofCodec fault)
      | .ok text => .ok text

/-- The failure to write an output file. -/
def writeFailure (path : Text) : Disk.Fault → Failure
  | .refused cause refusedPath => .outputWrite path (.refused cause refusedPath)
  | .stopped cause => .outputWrite path (.stopped cause)
  | .unencodable fault => .unencodable fault
  | fault => .disk fault

/-- Takes over a change of the disk, whether it succeeded or not. -/
def change (toFailure : Disk.Fault → Failure) (act : Disk → Disk.Change) : Step Unit := do
  let state ← get
  let (outcome, disk) := act state.disk
  set { state with disk }
  match outcome with
  | .ok () => pure ()
  | .error fault => throw (toFailure fault)

/-- Writes an output file and the directories above it. -/
def writeFile (path content : Text) : Step Text := do
  change (writeFailure path) (·.makeDirs (Path.directoryOf path))
  change (writeFailure path) (·.writeText path content)
  pure path

/-- The sections of a source, highlighted; a source without known language has none. -/
def buildSections (generator : Generator) (source : Text) : Step (List Section) :=
  match generator.registry.forPath source with
  | none => pure []
  | some language => do
    let state ← get
    match generator.readSource state.disk source with
    | .error failure => throw failure
    | .ok text =>
      absorb (generator.highlighter.highlight state.disk language
        (Section.ofSource language text))

/-- The page of a source, in a state of the run. -/
def pageText (generator : Generator) (state : RunState) (source : Text)
    (sections : List Section) : Text :=
  (Page.ofSource generator.settings.layout (Disk.pathOf state.disk.cwd) source sections
    state.context.sources).render

/-- Writes the page of one source. -/
def document (generator : Generator) (source : Text) : Step Text := do
  generator.report (.parsing source)
  let sections ← generator.buildSections source
  let state ← get
  let page ← writeFile (generator.settings.layout.pagePath source)
    (generator.pageText state source sections)
  modify fun state =>
    { state with context := { state.context with written := state.context.written ++ [page] } }
  generator.report (.documented source page sections.length)
  pure page

/-- Collects the sources and writes the stylesheet and all pages. -/
def execute (generator : Generator) : Step RunResult := do
  let sources ← generator.collect
  if sources = [] then
    generator.report .noSources
    let state ← get
    pure { sources := [], pages := [], skipped := state.context.skipped }
  else
    change .disk (·.makeDirs generator.settings.outputDir)
    let _ ← writeFile generator.settings.layout.stylesheetPath
      (Stylesheet.text generator.colourRules)
    let pages ← sources.mapM generator.document
    generator.report (.finished pages.length generator.settings.outputDir)
    let state ← get
    pure { sources, pages, skipped := state.context.skipped }

end Generator
end Marginalia
