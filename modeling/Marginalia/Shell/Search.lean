import Marginalia.Shell.Regex
import Marginalia.Shell.Request

/-!
# Searching

The program that shows the lines of files in which a pattern is found, with what stands
around them, or only how many there are or which files have some. Its patterns are
lines: a line is found if one of them matches.
-/

namespace Marginalia.Shell

namespace Search

open Utility

/-! ## Patterns -/

/-- The expression that matches a text as it is. -/
def fixed (text : Text) : Regex := .ofAtoms (text.reverse.map .char)

/-- The expression that a pattern writes, and its signs that had nothing to repeat. -/
def expression (found : List (Char × Text)) (text : Text) :
    Except Text (Regex × List Text) :=
  match lastOf? found ['E', 'F', 'G', 'P'] with
  | some 'F' => .ok (fixed text, [])
  | kind =>
    let isExtended := kind = some 'E' || kind = some 'P'
    match Regex.parse { isExtended, isLenient := true } text with
    | .error fault => .error fault.message
    | .ok read =>
      if read.isConfusing then
        .error "character class syntax is [[:space:]], not [:space:]".toList
      else .ok (read.regex, read.idle)

/-- An expression that matches where one of several does; none of them matches nowhere. -/
def anyOf : List Regex → Option Regex
  | [] => none
  | first :: others => some (others.foldl .alt first)

/-- What lines are searched for. -/
structure Query where
  /-- What is searched for; without it nothing is found. -/
  pattern : Option Regex
  anyCase : Bool := false
  /-- Whether the lines are wanted that do not match. -/
  inverts : Bool := false

/-- Whether a line is wanted. -/
def Query.selects (query : Query) (line : Text) : Bool :=
  (query.pattern.any fun pattern => (pattern.find? query.anyCase [] line).isSome) != query.inverts

/-- The query that options and patterns ask for, and the signs that had nothing to repeat. -/
def Query.ofPatterns (found : List (Char × Text)) (patterns : List Text) :
    Except Text (Query × List Text) := do
  let read ← patterns.mapM (expression found)
  let around := fun (pattern : Regex) =>
    if has found 'x' then .seq .lineStart (.seq pattern .lineEnd)
    else if has found 'w' then .seq (.wordFree true) (.seq pattern (.wordFree false))
    else pattern
  return ({ pattern := (anyOf (read.map (·.1))).map around
            anyCase := has found 'i' || has found 'y'
            inverts := has found 'v' }, read.flatMap (·.2))

/-- The parts of a line that match, with their offsets in it. -/
def occurrences (anyCase : Bool) (pattern : Regex) : (fuel : Nat) → Place → List (Nat × Text)
  | 0, _ => []
  | fuel + 1, place =>
    match pattern.find? anyCase place.before place.after with
    | none => []
    | some (start, m) =>
      let found := start.after.take (start.after.length - m.place.after.length)
      if found = [] then
        if start.after = [] then [] else occurrences anyCase pattern fuel (Regex.moveBy 1 start)
      else (start.before.length, found) :: occurrences anyCase pattern fuel m.place

/-! ## Reports -/

/-- What is shown of a file. -/
inductive Shown where
  | lines
  /-- Only the parts that match. -/
  | parts
  | count
  /-- The name of the file, if it has wanted lines or if it has none. -/
  | name (ofFound : Bool)
  | nothing
  deriving DecidableEq

/-- How wanted lines are shown. -/
structure Report where
  shown : Shown := .lines
  hasNames : Bool := false
  hasNumbers : Bool := false
  hasOffsets : Bool := false
  /-- How many lines before and after a wanted line are shown. -/
  before : Nat := 0
  after : Nat := 0
  /-- What stands between lines that do not follow each other, if anything does. -/
  separator : Option Text := none
  /-- How many lines are wanted at most. -/
  limit : Option Nat := none
  mark : Char := '\n'
  /-- What follows a name in place of a colon or a newline. -/
  nameEnd : Option Char := none
  inputName : Text := "(standard input)".toList
  /-- Whether files with null characters are shown like others. -/
  showsBinary : Bool := false
  skipsBinary : Bool := false

/-- A line of a file: its number, its offset, whether it is wanted, and its text. -/
structure Row where
  number : Nat
  offset : Nat
  isWanted : Bool
  text : Text

/-- The lines of a text. -/
def rows (query : Query) (mark : Char) (number offset : Nat) : List Text → List Row
  | [] => []
  | line :: rest =>
    let text := (Text.dropEnd? [mark] line).getD line
    { number, offset, isWanted := query.selects text, text } ::
      rows query mark (number + 1) (offset + line.length) rest

/-- Lines up to the last one that may still be wanted, and those after it, none of them wanted. -/
def upToLimit : (limit : Nat) → List Row → List Row × List Row
  | _, [] => ([], [])
  | limit, row :: rows =>
    match limit, row.isWanted with
    | 0, _ => ([], (row :: rows).map fun row => { row with isWanted := false })
    | limit + 1, true =>
      let (first, rest) := upToLimit limit rows
      (row :: first, rest)
    | limit, false =>
      let (first, rest) := upToLimit limit rows
      (row :: first, rest)

/-- What stands before a line. -/
def Report.start (report : Report) (name : Text) (isWanted : Bool) (number offset : Nat) : Text :=
  let sign := if isWanted then ':' else '-'
  (if report.hasNames then name ++ [report.nameEnd.getD sign] else []) ++
    (if report.hasNumbers then Text.ofNat number ++ [sign] else []) ++
    (if report.hasOffsets then Text.ofNat offset ++ [sign] else [])

/-- A row as it is shown. -/
def Report.row (report : Report) (query : Query) (name : Text) (row : Row) : Text :=
  match report.shown, query.pattern with
  | .parts, some pattern =>
    if !row.isWanted || query.inverts then []
    else
      (occurrences query.anyCase pattern (row.text.length + 1) { after := row.text }).flatMap
        fun (start, text) =>
          report.start name true row.number (row.offset + start) ++ text ++ [report.mark]
  | .parts, none => []
  | _, _ => report.start name row.isWanted row.number row.offset ++ row.text ++ [report.mark]

/-- Where the showing of rows stands. -/
structure Showing where
  done : Text := []
  /-- The number of the last row that was shown. -/
  last : Option Nat := none
  /-- How many rows are still shown after a wanted one. -/
  left : Nat := 0
  /-- The rows that may be shown before a wanted one, the last one first. -/
  waiting : List Row := []

/-- Shows one row, or keeps it. -/
def Report.show (report : Report) (query : Query) (name : Text) (isFirst : Bool)
    (state : Showing) (row : Row) : Showing :=
  if row.isWanted then
    let group := (state.waiting.take report.before).reverse ++ [row]
    let start := (group.head?.map (·.number)).getD row.number
    let isGap : Bool := match state.last with
      | some last => last + 1 < start
      | none => !isFirst
    let line := match report.separator with
      | some text => if isGap then text ++ ['\n'] else []
      | none => []
    { done := state.done ++ line ++ group.flatMap (report.row query name)
      last := some row.number
      left := report.after }
  else if 0 < state.left then
    { state with
      done := state.done ++ report.row query name row
      last := some row.number
      left := state.left - 1 }
  else { state with waiting := row :: state.waiting }

/-- What is shown of a file, whether it has wanted lines, and how much of it is read. -/
def Report.file (report : Report) (query : Query) (isFirst : Bool) (name text : Text) :
    Text × Bool × Nat :=
  let isBinary := report.mark = '\n' && text.contains '\x00' && !report.showsBinary
  let all := rows query report.mark 1 0 (writtenAt report.mark text)
  let (first, rest) := match report.limit with
    | some limit => upToLimit limit all
    | none => (all, [])
  let wanted := first.filter (·.isWanted)
  let taken := (rest.head?.map (·.offset)).getD text.length
  let hasFound := !wanted.isEmpty
  let named := if report.hasNames then name ++ [report.nameEnd.getD ':'] else []
  if isBinary && report.skipsBinary then ([], false, text.length)
  else
    let shown := match report.shown with
      | .nothing => []
      | .name ofFound =>
        if ofFound == hasFound then name ++ [report.nameEnd.getD '\n'] else []
      | .count => named ++ Text.ofNat wanted.length ++ ['\n']
      | _ =>
        if isBinary then
          if hasFound then "grep: ".toList ++ name ++ ": binary file matches\n".toList else []
        else ((first ++ rest).foldl (report.show query name isFirst) {}).done
    let stopsEarly := report.shown matches .nothing | .name _
    (shown, hasFound, if stopsEarly then text.length else taken)

/-! ## Requests -/

/-- The number of lines that an option asks for. -/
def contextSize (found : List (Char × Text)) (letters : List Char) : Except Text Nat := do
  let digits := (found.filter fun (letter, _) => letter.isDigit).map (·.1)
  match lastOf? found letters with
  | none => return if digits.isEmpty then 0 else ofDigits digits
  | some letter =>
    let value := (valueOf? found letter).getD []
    match natural? value with
    | some n => return n
    | none => throw (value ++ ": invalid context length argument".toList)

/-- The report that options ask for, of files some of which need their names. -/
def reportOf (found : List (Char × Text)) (isNamed : Bool) : Except Text Report := do
  let before ← contextSize found ['B', 'C']
  let after ← contextSize found ['A', 'C']
  let hasContext := found.any fun (letter, _) => "ABC".toList.contains letter || letter.isDigit
  let limit ← match valueOf? found 'm' with
    | none => pure none
    | some value =>
      match count? value with
      | some n => pure (if n < 0 then none else some n.toNat)
      | none => throw "invalid max count".toList
  let shown : Shown :=
    if has found 'q' then .nothing
    else match lastOf? found ['l', 'L'] with
      | some letter => .name (letter = 'l')
      | none => if has found 'c' then .count else if has found 'o' then .parts else .lines
  let separator := match lastOf? found ['\x01', '\x02'] with
    | some '\x02' => none
    | some _ => valueOf? found '\x01'
    | none => some ['-', '-']
  return {
    shown, before, after, limit
    hasNames := match lastOf? found ['h', 'H'] with
      | some letter => letter = 'H'
      | none => isNamed
    hasNumbers := has found 'n'
    hasOffsets := has found 'b'
    separator := if hasContext then separator else none
    mark := lineMark found
    nameEnd := if has found 'Z' then some '\x00' else none
    inputName := (valueOf? found '\x03').getD "(standard input)".toList
    showsBinary := has found 'a'
    skipsBinary := has found 'I' }

/-- The files in a directory and below it, with the ways to them. -/
def filesBelow (disk : Disk) (place : Location) : List Text :=
  let found := disk.entries.filterMap fun (other, node) =>
    match node with
    | .file _ =>
      if place.isPrefixOf other && place.length < other.length then
        some (encodeText (List.intercalate ['/'] (other.drop place.length)))
      else none
    | _ => none
  found.mergeSort Text.isLe

/-- The files that an operand stands for if directories are searched through. -/
def expanded (disk : Disk) (hasOperands : Bool) (operand : Text) : List Text :=
  if isInput operand then [operand]
  else
    match disk.directoryAt? (decodeText operand) with
    | none => [operand]
    | some place =>
      (filesBelow disk place).map fun name =>
        if !hasOperands then name
        else if operand.getLast? = some '/' then operand ++ name
        else operand ++ '/' :: name

/-- The patterns among options and operands, and the operands that are left. -/
def patternsOf (request : Request) (found : List (Char × Text)) (operands : List Text) :
    Except Effect (List Text × List Text) := do
  let step := fun (option : Char × Text) =>
    let (letter, value) := option
    if letter = 'e' then .ok (Text.splitOn '\n' value)
    else if letter = 'f' then
      match content request value with
      | .ok text => .ok (lines text)
      | .error cause => Except.error (refuse request (value ++ ": ".toList ++ cause.text) 2)
    else .ok []
  let patterns := (← found.mapM step).flatten
  if found.any fun (letter, _) => letter = 'e' || letter = 'f' then return (patterns, operands)
  match operands with
  | pattern :: operands => return (Text.splitOn '\n' pattern, operands)
  | [] =>
    let usage := "Usage: grep [OPTION]... PATTERNS [FILE]...".toList
    throw { written := [(2, usage ++ hint request ++ ['\n'])], status := 2 }

/-- What searching files one after the other does so far. -/
structure Progress where
  written : List (Nat × Text) := []
  hasFound : Bool := false
  hasFailed : Bool := false
  /-- Whether nothing was shown yet. -/
  isFirst : Bool := true
  taken : Option Nat := none

/-- Searches one file. -/
def Progress.search (request : Request) (query : Query) (report : Report) (isSilent : Bool)
    (state : Progress) (source : Text × Except Disk.Cause Text) : Progress :=
  if report.shown = .nothing && state.hasFound then state
  else
    match source.2 with
    | .error cause =>
      let complaint := if isSilent then [] else [(2, unreadable request source.1 cause)]
      { state with written := state.written ++ complaint, hasFailed := true }
    | .ok text =>
      let name := if isInput source.1 then report.inputName else source.1
      let (shown, hasFound, taken) := report.file query state.isFirst name text
      { state with
        written := state.written ++ [(1, shown)]
        hasFound := state.hasFound || hasFound
        isFirst := state.isFirst && shown = []
        taken := if isInput source.1 then some taken else state.taken }

/-- Searches the files that operands name. -/
def run (request : Request) (found : List (Char × Text)) (operands : List Text) :
    Except Effect Effect := do
  let fault := fun (message : Text) => refuse request message 2
  let (patterns, operands) ← patternsOf request found operands
  let isDeep := has found 'r' || has found 'R'
  let goesInto := fun (operand : Text) =>
    isDeep && !isInput operand && request.disk.isDirectory (decodeText operand)
  let named := 1 < operands.length || operands.any goesInto || (isDeep && operands.isEmpty)
  let report ← (reportOf found named).mapError fault
  match valueOf? found 'X' with
  | some name => throw (fault ("invalid matcher ".toList ++ name))
  | none => pure ()
  let (query, idle) ← (Query.ofPatterns found patterns).mapError fault
  let files :=
    if isDeep then
      (if operands.isEmpty then [['.']] else operands).flatMap
        (expanded request.disk !operands.isEmpty)
    else sources operands
  let skips := valueOf? found 'd' = some "skip".toList
  let inputs := (contents request files).filter fun (_, text) =>
    !(skips && text matches .error .isDirectory)
  let warnings := idle.map fun sign =>
    (2, "grep: warning: ".toList ++ sign ++ " at start of expression\n".toList)
  let state := inputs.foldl (Progress.search request query report (has found 's')) {}
  let isDone := state.hasFound && report.shown = .nothing
  return {
    written := warnings ++ state.written
    status := if state.hasFailed && !isDone then 2 else if state.hasFound then 0 else 1
    reads := files.any isInput
    taken := if files = [['-']] then state.taken else none }

end Search

/-- Selects lines that match a pattern. -/
def Utility.grep (request : Request) : Effect :=
  let given := options (.ofTable
    "0123456789A:B:C:D:EFGHILPTUVX:abcd:e:f:hiLlm:noqrRsuvwxyZz"
    [("basic-regexp", 'G'), ("extended-regexp", 'E'), ("fixed-regexp", 'F'),
      ("fixed-strings", 'F'), ("perl-regexp", 'P'), ("after-context=", 'A'),
      ("before-context=", 'B'), ("binary-files=", 'D'), ("binary", 'U'), ("byte-offset", 'b'),
      ("context=", 'C'), ("color[=", 'T'), ("colour[=", 'T'), ("count", 'c'), ("devices=", 'D'),
      ("directories=", 'd'), ("file=", 'f'), ("files-with-matches", 'l'),
      ("files-without-match", 'L'), ("group-separator=", '\x01'), ("ignore-case", 'i'),
      ("initial-tab", 'T'), ("label=", '\x03'), ("line-buffered", 'u'), ("line-number", 'n'),
      ("line-regexp", 'x'), ("max-count=", 'm'), ("no-filename", 'h'),
      ("no-group-separator", '\x02'), ("no-messages", 's'), ("null", 'Z'), ("null-data", 'z'),
      ("only-matching", 'o'), ("quiet", 'q'), ("recursive", 'r'),
      ("dereference-recursive", 'R'), ("regexp=", 'e'), ("invert-match", 'v'), ("silent", 'q'),
      ("text", 'a'), ("unix-byte-offsets", 'u'), ("with-filename", 'H'), ("word-regexp", 'w')])
    none request.arguments
  match given.fault with
  | some fault =>
    refuseUsage request
      (fault.message ++ "\nUsage: grep [OPTION]... PATTERNS [FILE]...".toList) 2
  | none =>
    match Search.run request given.found given.operands with
    | .ok effect | .error effect => effect

end Marginalia.Shell
