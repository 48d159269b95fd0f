import Marginalia.Shell.Editor.Grammar
import Marginalia.Shell.Editor.Run
import Marginalia.Shell.Request

/-!
# Calling the editor

The arguments that the editor is called with: the pieces of a script, the files to edit,
and whether they are edited together, one by one, or in their places.
-/

namespace Marginalia.Shell.Editor

open Utility

/-- What the editor is called with. -/
structure Invocation where
  job : Job
  operands : List Text
  /-- Whether files count as separate inputs. -/
  isSeparate : Bool := false
  /-- What is added to the name of a file to keep what it held. -/
  suffix : Text := []
  /-- Where the last piece of the script ends. -/
  lastOrigin : Origin × Nat

/-- The pieces of the script among options and operands, and the operands that are left. A
directory is an empty piece. -/
def piecesOf (request : Request) (found : List (Char × Text)) (operands : List Text) :
    Except Effect (List (Origin × Text) × List Text) := do
  let given := found.filter fun (letter, _) => letter = 'e' || letter = 'f'
  let step := fun (state : List (Origin × Text) × Nat) (option : Char × Text) =>
    let (pieces, count) := state
    let (letter, value) := option
    if letter = 'e' then .ok (pieces ++ [(.expression (count + 1), value)], count + 1)
    else
      match content request value with
      | .ok text => .ok (pieces ++ [(.file value, text)], count)
      | .error .isDirectory => .ok (pieces ++ [(.file value, [])], count)
      | .error cause =>
        Except.error (refuse request
          ("couldn't open file ".toList ++ value ++ ": ".toList ++ cause.text) 4)
  let (pieces, _) ← given.foldlM step ([], 0)
  match pieces, operands with
  | [], [] => throw (refuse request "no script specified".toList 1)
  | [], script :: operands => return ([(.expression 1, script)], operands)
  | pieces, operands => return (pieces, operands)

/-- What options and operands ask for, or what is wrong with them. -/
def invocation (request : Request) (found : List (Char × Text)) (operands : List Text) :
    Except Effect Invocation := do
  let (pieces, operands) ← piecesOf request found operands
  let manner : Manner := { isExtended := has found 'E' || has found 'r', isSafe := has found 'S' }
  match Script.ofPieces manner pieces with
  | .error (message, status) => throw { written := [(2, message)], status }
  | .ok script =>
    let inPlace := has found 'i'
    if inPlace && operands.isEmpty then throw (refuse request "no input files".toList 4)
    let isSeparate := inPlace || has found 's'
    let width := match valueOf? found 'l' with
      | some value => (numeral value).1
      | none => 70
    let job : Job := {
      program := script.program
      isQuiet := script.isQuiet || has found 'n'
      mark := lineMark found
      width, inPlace
      fileText := fun path => (content request path).toOption.getD [] }
    let lastOrigin := match pieces.getLast? with
      | some (origin, text) => (origin, text.count '\n' + 1)
      | none => (.expression 1, 1)
    return { job, operands, isSeparate, suffix := (valueOf? found 'i').getD [], lastOrigin }

/-- The name under which what a file held is kept; a star stands for its own name. -/
def backupName (suffix path : Text) : Text :=
  if !suffix.contains '*' then path ++ suffix
  else
    let name := Path.name path
    let backup := suffix.flatMap fun c => if c = '*' then name else [c]
    if backup.contains '/' then backup else path.take (path.length - name.length) ++ backup

/-- The files that are read: the index, the name and the text of each, and what is said of others.
A directory ends the input unless files are edited in their places. -/
def readable (request : Request) (inPlace : Bool) :
    List (Nat × Text × Except Disk.Cause Text) → List (Nat × Text × Text) × List Text × Nat
  | [] => ([], [], 0)
  | (index, name, .ok text) :: rest =>
    let (files, complaints, status) := readable request inPlace rest
    ((index, name, text) :: files, complaints, status)
  | (_, name, .error cause) :: rest =>
    if cause ≠ .isDirectory then
      let (files, complaints, status) := readable request inPlace rest
      (files, unreadable request name cause :: complaints, max 2 status)
    else if inPlace then
      let (files, complaints, status) := readable request inPlace rest
      let message := "sed: couldn't edit ".toList ++ name ++ ": not a regular file\n".toList
      (files, message :: complaints, max 4 status)
    else ([], [unreadable request name cause], 4)

/-- The lines of a file, the first of which has a number. -/
def linesOfFile (mark : Char) (isSeparate : Bool) (first : Nat) (file : Nat × Text × Text) :
    List Line :=
  let (part, name, text) := file
  let pieces := writtenAt mark text
  pieces.zipIdx.map fun (piece, k) =>
    let isWhole := piece.getLast? = some mark
    { text := if isWhole then piece.dropLast else piece
      isWhole, part, name
      number := first + k
      isLast := k + 1 = pieces.length
      isNew := isSeparate && k = 0 }

/-- The lines of files one after the other. -/
def linesOfFiles (mark : Char) (isSeparate : Bool) (files : List (Nat × Text × Text)) :
    List Line :=
  if isSeparate then files.flatMap (linesOfFile mark true 1)
  else
    let all := files.foldl (fun lines file =>
      lines ++ linesOfFile mark false (lines.length + 1) file) []
    all.zipIdx.map fun (line, k) => { line with isLast := k + 1 = all.length }

/-- A disk after files were written. -/
def written (disk : Disk) (files : List (Text × Text)) : Disk :=
  files.foldl (fun disk (path, text) =>
    (disk.writeFile (decodeText path) (streamBytes text)).2) disk

/-- How much of the input was taken when the editing ended. -/
def takenOf (total : Nat) (e : Editing) : Nat :=
  total - e.input.foldl (fun n line =>
    n + line.text.length + if line.isWhole then 1 else 0) 0

/-- Edits the files of an invocation. -/
def Invocation.run (call : Invocation) (request : Request) : Effect :=
  let job := call.job
  let toDisk := (targets job.program).filter fun path => !Text.startsWith "/dev/std".toList path
  let refused := toDisk.findSome? fun path =>
    match request.disk.filePlace (decodeText path) with
    | .error cause => some (path, cause)
    | .ok _ => none
  match refused with
  | some (path, cause) =>
    refuse request ("couldn't open file ".toList ++ path ++ ": ".toList ++ cause.text) 4
  | none =>
    let start := { request with disk := written request.disk (toDisk.map fun path => (path, [])) }
    let operands := sources call.operands
    let isRead := fun operand => !job.inPlace && isInput operand
    let contents := (contents start operands).zipIdx.map fun ((operand, text), index) =>
      let text := if job.inPlace && isInput operand then .error .missing else text
      let name := if isRead operand then ['-'] else operand
      (index, name, text)
    let (files, complaints, status) := readable request job.inPlace contents
    let e := job.edit (linesOfFiles job.mark call.isSeparate files)
    let outputs := e.finished ++ [(e.part, e.output)]
    let fromFiles := e.files.filterMap fun (path, text, _) =>
      if toDisk.contains path then some (path, text) else none
    let changed := if !job.inPlace then [] else
      files.flatMap fun (index, name, old) =>
        match outputs.lookup index with
        | none => []
        | some text =>
          (if call.suffix = [] then [] else [(backupName call.suffix name, old)]) ++ [(name, text)]
    let special := fun (path : String) => ((Dict.get? path.toList e.files).map (·.1)).getD []
    let fault := e.fault.toList.map fun fault =>
      (2, call.lastOrigin.1.complaint 0 call.lastOrigin.2 fault)
    let printed := if job.inPlace then special "/dev/stdout" else e.output
    { written := complaints.map (2, ·) ++ [(2, special "/dev/stderr"), (1, printed)] ++ fault
      status := if e.fault.isSome then 1 else if status ≠ 0 then status else e.status
      reads := operands.any isRead
      taken := if call.operands.isEmpty then some (takenOf request.stdin.length e) else none
      disk :=
        if toDisk.isEmpty && changed.isEmpty then none
        else some (written start.disk (fromFiles ++ changed)) }

end Editor

/-- Edits files as instructions say. -/
def Utility.sed (request : Request) : Effect :=
  let given := options (.ofTable "bsnrzuEe:f:l:i::"
    [("binary", 'b'), ("regexp-extended", 'r'), ("debug", 'b'), ("in-place[=", 'i'),
      ("expression=", 'e'), ("file=", 'f'), ("line-length=", 'l'), ("null-data", 'z'),
      ("zero-terminated", 'z'), ("quiet", 'n'), ("silent", 'n'), ("posix", 'b'),
      ("separate", 's'), ("sandbox", 'S'), ("unbuffered", 'u'), ("follow-symlinks", 'b')])
    none request.arguments
  match given.fault with
  | some fault => refuse request fault.message 1
  | none =>
    match Editor.invocation request given.found given.operands with
    | .error effect => effect
    | .ok call => call.run request

end Marginalia.Shell
