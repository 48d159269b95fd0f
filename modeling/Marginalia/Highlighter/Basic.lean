import Marginalia.Failure
import Marginalia.Highlighter.Wrapper
import Marginalia.Language.Divider
import Marginalia.Notice
import Marginalia.Section.Basic

/-!
# Highlighting

All code of a source is sent to an outside program in one call, its fragments
joined by dividers, and the answer is cut back into one block per fragment. The
program is a function from a disk, its command and its input to its reply and the
disk after it, so nothing here depends on what it does: an answer with another
number of fragments is refused.
-/

namespace Marginalia

/-- One call of the outside program. -/
structure Call where
  command : List Text
  stdin : Bytes
  deriving DecidableEq, Repr

/-- What an outside program did. -/
structure Reply where
  status : Int := 0
  stdout : Bytes := []
  stderr : Bytes := []
  deriving DecidableEq, Repr

/-- Why an outside program did not reply. -/
inductive RunnerFault where
  /-- It could not be started. -/
  | notStarted (fault : Disk.Fault)
  /-- It could not read its input. -/
  | undecodable (fault : Undecodable)
  /-- It could not write its output. -/
  | unencodable (fault : Unencodable)
  deriving DecidableEq, Repr

/--
An outside program: on a disk, its reply to a command and an input, or why there is
none, and the disk after it.
-/
abbrev Runner := Disk → List Text → Bytes → Except RunnerFault Reply × Disk

/-- A program that neither sees nor changes a disk. -/
def Runner.ofReplies (reply : List Text → Bytes → Except RunnerFault Reply) : Runner :=
  fun disk command stdin => (reply command stdin, disk)

/-- A result together with what was done and printed on the way to it. -/
structure Traced (α : Type) where
  result : Except Failure α
  /-- The disk as it then is. -/
  disk : Disk
  calls : List Call := []
  notices : List Notice := []

namespace Traced

/-- A failure before anything was done. -/
def fail (disk : Disk) (failure : Failure) : Traced α := { result := .error failure, disk }

/-- Goes on from the result without doing anything more. -/
def andThen (traced : Traced α) (next : α → Except Failure β) : Traced β :=
  { traced with result := traced.result.bind next }

end Traced

/-- How code and comments become HTML. -/
structure Highlighter where
  /-- The command that starts the outside program, before its options. -/
  command : List Text
  /-- The name of the encoding in which the program is spoken to. -/
  encoding : Text
  /-- The outside program. -/
  runner : Runner
  /-- The rendering of comment text. -/
  render : Text → Except Failure Text
  /-- The codecs by their names. -/
  codecs : Text → Option Codec := Encoding.codec?

namespace Highlighter

/-- The command for a language. -/
def commandFor (highlighter : Highlighter) (language : Language) : List Text :=
  highlighter.command ++
    ["-l".toList, language.name, "-f".toList, "html".toList, "-O".toList,
      "encoding=".toList ++ highlighter.encoding]

/-- The failure of a program that did not reply. -/
def runnerFailure (command : List Text) : RunnerFault → Failure
  | .notStarted (.refused cause path) =>
    .highlighter (.notStarted (command.headD []) cause path) none
  | .notStarted fault => .disk fault
  | .undecodable fault => .undecodable fault
  | .unencodable fault => .unencodable fault

/-- The body of decoded output, or what is wrong with it. -/
def bodyOf (language : Language) (stderr output : Text) : Except Failure Text :=
  if Text.isBlank output then .error (.highlighter (.silent language.name) (some stderr))
  else
    match Wrapper.body? output with
    | some body => .ok body
    | none => .error (.highlighter (.unexpected language.name output) (some stderr))

/-- What the program's reply means in an encoding, with the disk after it. -/
def readReply (codec : Codec) (language : Language) (call : Call) (disk : Disk)
    (reply : Reply) : Traced Text :=
  match codec.decodeLossy reply.stderr with
  | .error fault => { result := .error (.ofCodec fault), disk, calls := [call] }
  | .ok warning =>
    let stderr := Text.trim warning
    if reply.status ≠ 0 then
      { result := .error (.highlighter (.exited reply.status language.name) (some stderr))
        disk
        calls := [call] }
    else
      { result :=
          match codec.decodeLossy reply.stdout with
          | .error fault => .error (.ofCodec fault)
          | .ok output => bodyOf language stderr output
        disk
        calls := [call]
        notices := if stderr = [] then [] else [.highlighterWarning stderr] }

/-- Sends one text to the program and returns the body of its answer. -/
def run (highlighter : Highlighter) (disk : Disk) (language : Language) (text : Text) :
    Traced Text :=
  match highlighter.codecs highlighter.encoding with
  | none => .fail disk (.unknownEncoding highlighter.encoding)
  | some codec =>
    match codec.encode text with
    | .error fault => .fail disk (.ofCodec fault)
    | .ok stdin =>
      let call := ⟨highlighter.commandFor language, stdin⟩
      match highlighter.runner disk call.command call.stdin with
      | (.error fault, disk) =>
        { result := .error (runnerFailure call.command fault), disk, calls := [call] }
      | (.ok reply, disk) => readReply codec language call disk reply

/-- Cuts a body into one block for each of `expected` fragments. -/
def blocksOf (language : Language) (expected : Nat) (body : Text) : Except Failure (List Text) :=
  let pieces := language.splitAtDividers body
  if pieces.length ≠ expected then
    .error (.dividerMismatch language.name expected pieces.length)
  else .ok (pieces.map Wrapper.wrap)

/-- Highlights fragments of code in one call, giving one block for each. -/
def highlightCode (highlighter : Highlighter) (disk : Disk) (language : Language)
    (fragments : List Text) : Traced (List Text) :=
  (highlighter.run disk language (List.intercalate language.dividerText fragments)).andThen
    (blocksOf language fragments.length)

/--
Fills in the HTML of sections in place, given the block of each: what stopped it, if
anything did, and the sections as it leaves them. A section gets its block first, so
one whose docs cannot be rendered has that already.
-/
def fillInPlace (highlighter : Highlighter) :
    List Section → List Text → Except Failure Unit × List Section
  | s :: sections, block :: blocks =>
    match highlighter.render s.docs with
    | .error failure => (.error failure, { s with codeHtml := some block } :: sections)
    | .ok docsHtml =>
      let (outcome, left) := highlighter.fillInPlace sections blocks
      (outcome, { s with codeHtml := some block, docsHtml := some docsHtml } :: left)
  | sections, _ => (.ok (), sections)

/-- The sections that are filled in, given the block of each. -/
def fill (highlighter : Highlighter) (sections : List Section) (blocks : List Text) :
    Except Failure (List Section) :=
  let (outcome, left) := highlighter.fillInPlace sections blocks
  outcome.map fun () => left

/-- Highlights the code of sections and renders their docs in place, and leaves the
sections as they are where their code cannot be highlighted. -/
def highlightInPlace (highlighter : Highlighter) (disk : Disk) (language : Language)
    (sections : List Section) : Traced (List Section) × List Section :=
  let traced := highlighter.highlightCode disk language (sections.map (·.code))
  (traced.andThen (highlighter.fill sections),
    match traced.result with
    | .error _ => sections
    | .ok blocks => (highlighter.fillInPlace sections blocks).2)

/-- Highlights the code of sections and renders their docs. -/
def highlight (highlighter : Highlighter) (disk : Disk) (language : Language)
    (sections : List Section) : Traced (List Section) :=
  (highlighter.highlightInPlace disk language sections).1

/-- Two fragments that a language's divider must keep apart. -/
def probe : List Text := ["first\n".toList, "second\n".toList]

/-- Checks that the divider of a language survives the program. -/
def verifyDivider (highlighter : Highlighter) (disk : Disk) (language : Language) : Traced Unit :=
  (highlighter.highlightCode disk language probe).andThen fun _ => .ok ()

end Highlighter
end Marginalia
