import Marginalia.Shell.Arithmetic
import Marginalia.Shell.Editor.Basic

/-!
# Reading scripts of the editor

A script comes in pieces, from arguments and files. Each is read by itself, so a place
in it counts from its own start, but blocks may end in a later piece, and so may the
text of an instruction that a backslash leaves open.
-/

namespace Marginalia.Shell.Editor

/-- Reading a part of a script: a fault comes with the text after the place where it shows. -/
abbrev Reading := Except (Fault × Text)

/-- How scripts are read. -/
structure Manner where
  isExtended : Bool := false
  /-- Whether files must not be touched. -/
  isSafe : Bool := false

/-! ## Characters -/

/-- Whether a character is a blank within a line. -/
def isSpace (c : Char) : Bool := c == ' ' || c == '\t'

/-- Whether a character can stand between instructions. -/
def isGap (c : Char) : Bool := isSpace c || "\n;\r\x0b\x0c".toList.contains c

/-- The number at the start of a text and what follows it; without digits it is zero. -/
def numeral (text : Text) : Nat × Text :=
  let digits := text.takeWhile Char.isDigit
  (Arithmetic.ofDigits 10 digits, text.drop digits.length)

/-- A byte that digits write, and how many there are, with the letter before them. -/
def byteOf? (base width : Nat) (text : Text) : Option (Char × Nat) :=
  let digits := (text.take width).takeWhile fun c => Arithmetic.digitValue c < base
  if digits = [] then none
  else some (.ofNat (Arithmetic.ofDigits base digits % 256), digits.length + 1)

/-- The character that stands after a backslash under another name, and how long the name is. -/
def escape? : Text → Option (Char × Nat)
  | 'a' :: _ => some ('\x07', 1)
  | 'f' :: _ => some ('\x0c', 1)
  | 'n' :: _ => some ('\n', 1)
  | 'r' :: _ => some ('\r', 1)
  | 't' :: _ => some ('\t', 1)
  | 'v' :: _ => some ('\x0b', 1)
  | 'c' :: '\\' :: '\\' :: _ => some ('\x1c', 3)
  | 'c' :: c :: _ => some (.ofNat (c.toUpper.toNat ^^^ 64), 2)
  | 'd' :: text => byteOf? 10 3 text
  | 'o' :: text => byteOf? 8 3 text
  | 'x' :: text => byteOf? 16 2 text
  | _ => none

/-- A pattern with its characters under their own names, of which `skip` are done with. -/
def plainPattern (skip : Nat) : Text → Text
  | [] => []
  | c :: text =>
    match skip with
    | skip + 1 => plainPattern skip text
    | 0 =>
      if c ≠ '\\' then c :: plainPattern 0 text
      else if text.head? = some '\\' then c :: c :: plainPattern 1 text
      else
        match escape? text with
        | some (meant, size) => meant :: plainPattern size text
        | none => c :: plainPattern 0 text

/-- A text without its backslashes, of which `skip` characters are done with. -/
def plainText (skip : Nat) : Text → Text
  | [] => []
  | c :: text =>
    match skip with
    | skip + 1 => plainText skip text
    | 0 =>
      if c ≠ '\\' || text = [] then c :: plainText 0 text
      else
        match escape? text with
        | some (meant, size) => meant :: plainText size text
        | none => text.take 1 ++ plainText 1 text

/-- What a character of a replacement stands for after a backslash. -/
def filler (c : Char) : Filler :=
  match c with
  | 'U' => .cased .upper
  | 'L' => .cased .lower
  | 'E' => .cased .plain
  | 'u' => .casedNext .upper
  | 'l' => .casedNext .lower
  | c => if c.isDigit then .group (c.toNat - '0'.toNat) else .char c

/-- The pieces of a replacement, of which `skip` characters are done with. -/
def fillers (skip : Nat) : Text → List Filler
  | [] => []
  | c :: text =>
    match skip with
    | skip + 1 => fillers skip text
    | 0 =>
      if c = '&' then .group 0 :: fillers 0 text
      else if c ≠ '\\' || text = [] then .char c :: fillers 0 text
      else
        match escape? text with
        | some (meant, size) => .char meant :: fillers size text
        | none => (text.take 1).map filler ++ fillers 1 text

/-- Whether a text has an escape within an escape. -/
def hasRecursiveEscape : Text → Bool
  | '\\' :: '\\' :: text => hasRecursiveEscape text
  | '\\' :: 'c' :: '\\' :: c :: text => c ≠ '\\' || hasRecursiveEscape text
  | _ :: text => hasRecursiveEscape text
  | [] => false

/-! ## Fields -/

/-- Where the reading of a set in brackets stands. -/
inductive SetState where
  | plain
  /-- After a bracket that may open a name. -/
  | bracket
  /-- In a name that ends with a mark and a bracket. -/
  | name (mark : Char)
  /-- After the mark that may end a name. -/
  | closing (mark : Char)

/-- Where the reading of a set stands after a character; there is no place after its end. -/
def SetState.next? : SetState → Char → Option SetState
  | .plain, ']' | .bracket, ']' => none
  | .plain, '[' | .bracket, '[' => some .bracket
  | .bracket, c => some (if c = '.' || c = ':' || c = '=' then .name c else .plain)
  | .name mark, c => some (if c = mark then .closing mark else .name mark)
  | .closing mark, c => some (if c = ']' then .plain else .name mark)
  | .plain, _ => some .plain

/-- How long the rest of a set is, its closing bracket included; a line must hold it. -/
def restOfSet? (state : SetState) : Text → Option Nat
  | [] => none
  | c :: text =>
    if c = '\n' then none
    else
      match state.next? c with
      | none => some 1
      | some state => (restOfSet? state text).map (· + 1)

/-- How long a set is after its opening bracket. -/
def setSize? (text : Text) : Option Nat :=
  let start := if text.head? = some '^' then 1 else 0
  let start := if (text.drop start).head? = some ']' then start + 1 else start
  (restOfSet? .plain (text.drop start)).map (· + start)

/--
A text up to a delimiter, and the text after it; `kept` characters are taken as they are.
A set in brackets may hold the delimiter, and a backslash before it takes its meaning.
Without a delimiter in the line the fault shows at the end of the line.
-/
def field (delimiter : Char) (isPattern : Bool) : (kept : Nat) → Text → Except Text (Text × Text)
  | _, [] => .error []
  | kept + 1, c :: text =>
    (field delimiter isPattern kept text).map fun (before, after) => (c :: before, after)
  | 0, c :: text =>
    if c = delimiter then .ok ([], text)
    else if c = '\n' then .error (c :: text)
    else if c = '\\' then
      match text with
      | [] => .error []
      | d :: text =>
        let piece :=
          if isPattern && d = 'n' then ['\n']
          else if d = '\n' || (d = delimiter && (isPattern || d ≠ '&')) then [d]
          else [c, d]
        (field delimiter isPattern 0 text).map fun (before, after) => (piece ++ before, after)
    else if c = '[' && isPattern then
      match setSize? text with
      | none => .error (text.dropWhile (· ≠ '\n'))
      | some size =>
        (field delimiter isPattern size text).map fun (before, after) => (c :: before, after)
    else (field delimiter isPattern 0 text).map fun (before, after) => (c :: before, after)

/-- The file name at the start of a text, which takes all of the line, and what follows it. -/
def fileName (text : Text) : Reading (Text × Text) :=
  let name := (text.dropWhile isSpace).takeWhile (· ≠ '\n')
  let rest := (text.dropWhile (· ≠ '\n')).drop 1
  if name = [] then .error (.noFile, rest) else .ok (name, rest)

/-- The label at the start of a text, which may be empty, and what follows it. -/
def labelName (text : Text) : Text × Text :=
  let text := text.dropWhile isSpace
  let name := text.takeWhile fun c => !isGap c && c ≠ '\x7d'
  (name, text.drop name.length)

/-! ## Texts of instructions -/

/-- Lines of text that belong to an instruction. -/
structure Lines where
  text : Text
  rest : Text := []
  /-- Whether the next piece of the script goes on with the text. -/
  isOpen : Bool := false

/-- The same with more text before it. -/
def Lines.after (lines : Lines) (text : Text) : Lines := { lines with text := text ++ lines.text }

/-- The text up to the end of a line that no backslash precedes; `skip` characters are done with. -/
def textLines (skip : Nat) : Text → Lines
  | [] => { text := ['\n'] }
  | c :: text =>
    match skip with
    | skip + 1 => textLines skip text
    | 0 =>
      if c = '\n' then { text := [c], rest := text }
      else if c ≠ '\\' then (textLines 0 text).after [c]
      else if text = [] then { text := ['\n'], isOpen := true }
      else
        match escape? text with
        | some (meant, size) => (textLines size text).after [meant]
        | none => (textLines 1 text).after (text.take 1)

/-- The text of an instruction, on its own line or on the next ones. -/
def textOf (text : Text) : Reading Lines :=
  match text.dropWhile isSpace with
  | [] => .error (.noText, [])
  | '\\' :: rest =>
    match rest.dropWhile isSpace with
    | [] => .ok { text := [], isOpen := true }
    | '\n' :: lines => .ok (textLines 0 lines)
    | _ => .ok (textLines 0 rest)
  | text => .ok (textLines 0 text)

/-! ## Addresses -/

/-- The search that a field between delimiters writes. -/
def searchFor (manner : Manner) (anyCase hasRows : Bool) (field : Text) :
    Except Fault (Option Search) :=
  if field = [] then if anyCase || hasRows then .error .modifiedEmpty else .ok none
  else
    match Regex.parse { isExtended := manner.isExtended, hasRows } (plainPattern 0 field) with
    | .error fault => .error (.regex fault)
    | .ok found =>
      if found.isConfusing then .error .confusingSet
      else .ok (some { pattern := found.regex, anyCase, groups := found.groups })

/-- The letters after a pattern: whether case does not matter, whether lines count, the rest. -/
def patternFlags (anyCase hasRows : Bool) : Text → Bool × Bool × Text
  | [] => (anyCase, hasRows, [])
  | c :: text =>
    if isSpace c then patternFlags anyCase hasRows text
    else if c = 'I' then patternFlags true hasRows text
    else if c = 'M' then patternFlags anyCase true text
    else (anyCase, hasRows, c :: text)

/-- The address with a pattern up to a delimiter. -/
def matchingAddress (manner : Manner) (text : Text) : Reading (Limit × Text) :=
  match text with
  | [] => .error (.unterminatedAddress, [])
  | delimiter :: rest =>
    match field delimiter true 0 rest with
    | .error rest => .error (.unterminatedAddress, rest)
    | .ok (pattern, rest) =>
      let (anyCase, hasRows, rest) := patternFlags false false rest
      match searchFor manner anyCase hasRows pattern with
      | .error fault => .error (fault, rest)
      | .ok search => .ok (.address (.matching search), rest)

/-- The address at the start of a text, if there is one, and what follows it. -/
def address (manner : Manner) (text : Text) : Reading (Option Limit × Text) :=
  match text with
  | '$' :: rest => .ok (some (.address .last), rest)
  | '/' :: _ => (matchingAddress manner text).map fun (found, rest) => (some found, rest)
  | '\\' :: rest => (matchingAddress manner rest).map fun (found, rest) => (some found, rest)
  | '+' :: rest =>
    let (count, rest) := numeral (rest.dropWhile isSpace)
    .ok (some (.further count), rest)
  | '~' :: rest =>
    let (factor, rest) := numeral (rest.dropWhile isSpace)
    .ok (some (.multiple factor), rest)
  | c :: _ =>
    if !c.isDigit then .ok (none, text)
    else
      let (first, rest) := numeral text
      match rest.dropWhile isSpace with
      | '~' :: after =>
        let (step, rest) := numeral (after.dropWhile isSpace)
        .ok (some (.address (if step = 0 then .line first else .every first step)), rest)
      | _ => .ok (some (.address (.line first)), rest)
  | [] => .ok (none, [])

/-- The lines that an instruction is about: where they start and end, and whether all others. -/
structure Scope where
  start : Option Address := none
  limit : Option Limit := none
  negated : Bool := false

/-- The addresses before an instruction, and what follows them. -/
def scope (manner : Manner) (text : Text) : Reading (Scope × Text) := do
  let (first, rest) ← address manner text
  let rest := if first.isSome then rest.dropWhile isSpace else rest
  let start ← match first with
    | none => pure none
    | some (.address start) => pure (some start)
    | some _ => .error (.badFirst, rest)
  let (limit, rest) ← match start, rest with
    | some _, ',' :: rest => do
      let (limit, rest) ← address manner (rest.dropWhile isSpace)
      if limit.isNone then .error (.unexpectedComma, rest.drop 1)
      pure (limit, rest.dropWhile isSpace)
    | _, rest => pure (none, rest)
  match start, limit with
  | some (.line 0), some (.address (.matching _)) => pure ()
  | some (.line 0), _ => .error (.lineZero, rest.drop 1)
  | _, _ => pure ()
  match rest with
  | '!' :: rest =>
    match rest.dropWhile isSpace with
    | '!' :: rest => .error (.repeatedNegation, rest)
    | rest => return ({ start, limit, negated := true }, rest)
  | rest => return ({ start, limit }, rest)

/-! ## Instructions -/

/-- What follows an instruction, if nothing but the next one follows it. -/
def endOfInstruction (fault : Fault) (text : Text) : Reading Text :=
  match text.dropWhile isSpace with
  | [] => .ok []
  | c :: rest =>
    if c = ';' || c = '\n' then .ok rest
    else if c = '\x7d' || c = '#' then .ok (c :: rest)
    else .error (fault, rest)

/-- The letters after a substitution. -/
structure Flags where
  everywhere : Bool := false
  prints : Bool := false
  first : Option Nat := none
  anyCase : Bool := false
  hasRows : Bool := false
  target : Option Text := none

/-- Takes in the letters after a substitution. -/
def Flags.take (manner : Manner) (flags : Flags) : (fuel : Nat) → Text → Reading (Flags × Text)
  | 0, text => .ok (flags, text)
  | fuel + 1, text =>
    match text.dropWhile isSpace with
    | 'g' :: text =>
      if flags.everywhere then .error (.repeatedFlag 'g', text)
      else take manner { flags with everywhere := true } fuel text
    | 'p' :: text =>
      if flags.prints then .error (.repeatedFlag 'p', text)
      else take manner { flags with prints := true } fuel text
    | 'i' :: text | 'I' :: text => take manner { flags with anyCase := true } fuel text
    | 'm' :: text | 'M' :: text => take manner { flags with hasRows := true } fuel text
    | 'w' :: text =>
      if manner.isSafe then .error (.forbidden, text)
      else (fileName text).map fun (path, rest) => ({ flags with target := some path }, rest)
    | '\r' :: '\n' :: text => .ok (flags, text)
    | c :: text =>
      if !c.isDigit then
        (endOfInstruction .unknownFlag (c :: text)).map fun rest => (flags, rest)
      else if flags.first.isSome then .error (.repeatedNumber, text)
      else
        let (first, rest) := numeral (c :: text)
        if first = 0 then .error (.zeroNumber, rest)
        else take manner { flags with first := some first } fuel rest
    | [] => .ok (flags, [])

/-- A substitution after its letter. -/
def substitution (manner : Manner) (text : Text) : Reading (Action × Text) :=
  let unterminated := fun (rest : Text) => Except.error (Fault.unterminated 's', rest)
  match text with
  | [] => unterminated []
  | delimiter :: rest =>
    match field delimiter true 0 rest with
    | .error rest => unterminated rest
    | .ok (pattern, rest) =>
      match field delimiter false 0 rest with
      | .error rest => unterminated rest
      | .ok (written, rest) => do
        if hasRecursiveEscape written then .error (.recursiveEscape, rest)
        let replacement := fillers 0 written
        let (flags, rest) ← Flags.take manner {} (rest.length + 1) rest
        match searchFor manner flags.anyCase flags.hasRows pattern with
        | .error fault => .error (fault, rest)
        | .ok search =>
          if search.any (·.groups < lastGroup replacement) then
            .error (.noGroup (lastGroup replacement), rest)
          else
            let { everywhere, prints, first, target, .. } := flags
            return (.substitute { search, replacement, everywhere, prints, first, target }, rest)

/-- A substitution table after its letter. -/
def substitutionTable (text : Text) : Reading (Action × Text) :=
  let unterminated := fun (rest : Text) => Except.error (Fault.unterminated 'y', rest)
  match text with
  | [] => unterminated []
  | delimiter :: rest =>
    match field delimiter false 0 rest with
    | .error rest => unterminated rest
    | .ok (before, rest) =>
      match field delimiter false 0 rest with
      | .error rest => unterminated rest
      | .ok (after, rest) => do
        let source := plainText 0 before
        let goal := plainText 0 after
        if source.length ≠ goal.length then .error (.differentLengths, rest)
        return (.replaceEach (source.zip goal), ← endOfInstruction .extra rest)

/-- The action of a letter that nothing needs to follow. -/
def simpleAction? : Char → Option Action
  | '=' => some .number
  | 'd' => some .delete
  | 'D' => some .deleteFirst
  | 'F' => some .inputName
  | 'g' => some .recall
  | 'G' => some .recallMore
  | 'h' => some .hold
  | 'H' => some .holdMore
  | 'n' => some .advance
  | 'N' => some .join
  | 'p' => some .print
  | 'P' => some .printFirst
  | 'x' => some .exchange
  | 'z' => some .clear
  | _ => none

/-- Whether a version is not beyond the one that scripts can rely on. -/
def isKnownVersion (version : Text) : Bool :=
  match (Text.splitOn '.' version).map fun part => (numeral part).1 with
  | major :: minor :: _ => major < 4 || (major = 4 && minor ≤ 9)
  | [major] => major ≤ 4
  | [] => true

/-- What was read of an instruction. -/
structure Piece where
  /-- The action; a comment has none. -/
  action : Option Action
  rest : Text
  isOpen : Bool := false

/-- What an instruction does, and what follows it, with its addresses and whether a block is open. -/
def action (manner : Manner) (scope : Scope) (inBlock : Bool) (text : Text) : Reading Piece := do
  let piece := fun (found : Action) (rest : Text) => ({ action := some found, rest } : Piece)
  let free := fun (letter : Char) (rest : Text) =>
    if scope.start.isSome then Except.error (Fault.needlessAddress letter, rest) else .ok ()
  let withText := fun (make : Text → Action) (rest : Text) =>
    (textOf rest).map fun lines =>
      ({ action := some (make lines.text), rest := lines.rest, isOpen := lines.isOpen } : Piece)
  let withFile := fun (make : Text → Action) (rest : Text) =>
    if manner.isSafe then Except.error (Fault.forbidden, rest)
    else (fileName rest).map fun (path, rest) => piece (make path) rest
  let withNumber := fun (make : Option Nat → Action) (rest : Text) =>
    let rest := rest.dropWhile isSpace
    let number := if rest.head?.any Char.isDigit then some (numeral rest).1 else none
    (endOfInstruction .extra (numeral rest).2).map fun rest => piece (make number) rest
  let withLabel := fun (condition : Condition) (rest : Text) =>
    let (name, rest) := labelName rest
    Except.ok (piece (.branch condition name) rest)
  match text with
  | [] => .error (.missing, [])
  | '#' :: rest =>
    if scope.start.isSome then .error (.needlessComment, rest)
    return { action := none, rest := rest.dropWhile (· ≠ '\n') }
  | '\x7b' :: rest => return piece .opening rest
  | '\x7d' :: rest =>
    if !inBlock then .error (.unexpectedClosing, rest)
    free '\x7d' rest
    return piece .closing (← endOfInstruction .extra rest)
  | ':' :: rest =>
    free ':' rest
    let (name, rest) := labelName rest
    if name = [] then .error (.noLabelName, rest)
    return piece (.label name) rest
  | 'v' :: rest =>
    let (version, rest) := labelName rest
    if !isKnownVersion version then .error (.newerVersion, rest)
    return { action := none, rest }
  | 'a' :: rest => withText .append rest
  | 'i' :: rest => withText .insert rest
  | 'c' :: rest => withText .change rest
  | 'r' :: rest => withFile .copy rest
  | 'R' :: rest => withFile .copyLine rest
  | 'w' :: rest => withFile (.write false) rest
  | 'W' :: rest => withFile (.write true) rest
  | 'l' :: rest => withNumber .reveal rest
  | 'q' :: rest =>
    if scope.limit.isSome then .error (.needlessLimit, rest)
    withNumber (fun status => .quit true (status.getD 0)) rest
  | 'Q' :: rest =>
    if scope.limit.isSome then .error (.needlessLimit, rest)
    withNumber (fun status => .quit false (status.getD 0)) rest
  | 'b' :: rest => withLabel .always rest
  | 't' :: rest => withLabel .replaced rest
  | 'T' :: rest => withLabel .notReplaced rest
  | 's' :: rest => (substitution manner rest).map fun (found, rest) => piece found rest
  | 'y' :: rest => (substitutionTable rest).map fun (found, rest) => piece found rest
  | c :: rest =>
    match simpleAction? c with
    | none => .error (.unknown c, rest)
    | some found => return piece found (← endOfInstruction .extra rest)

/-! ## Scripts -/

/-- The place where a block opens. -/
abbrev Mark := Origin × Nat

/-- What was read of a script. -/
structure Script where
  program : List Instruction := []
  /-- The blocks that are open, the last one first. -/
  blocks : List Mark := []
  /-- Whether the text of the last instruction is open. -/
  isOpen : Bool := false
  /-- Whether lines are not printed unless an instruction says so. -/
  isQuiet : Bool := false

/-- An action with more text. -/
def Action.withMore (action : Action) (more : Text) : Action :=
  match action with
  | .append text => .append (text ++ more)
  | .insert text => .insert (text ++ more)
  | .change text => .change (text ++ more)
  | action => action

/-- A script with more text in its last instruction. -/
def Script.extend (script : Script) (lines : Lines) : Script :=
  let program := match script.program.reverse with
    | last :: others =>
      ({ last with action := last.action.withMore lines.text } :: others).reverse
    | [] => []
  { script with program, isOpen := lines.isOpen }

/-- Adds the instructions of a text to a script; `mark` is the place before a rest of the text. -/
def Script.read (manner : Manner) (mark : Text → Mark) (script : Script) :
    (fuel : Nat) → Text → Reading Script
  | 0, _ => .ok script
  | fuel + 1, text => do
    match text.dropWhile isGap with
    | [] => return script
    | text =>
      let (scope, rest) ← Editor.scope manner text
      let piece ← action manner scope (!script.blocks.isEmpty) rest
      match piece.action with
      | none => script.read manner mark fuel piece.rest
      | some found =>
        let { start, limit, negated } := scope
        let blocks := match found with
          | .opening => mark rest :: script.blocks
          | .closing => script.blocks.tail
          | _ => script.blocks
        let next : Instruction := { start, limit, negated, action := found }
        let program := script.program ++ [next]
        let script := { script with program, blocks, isOpen := piece.isOpen }
        script.read manner mark fuel piece.rest

/-- Adds a piece to a script, or says what is wrong with it. -/
def Script.addPiece (manner : Manner) (script : Script) (origin : Origin) (text : Text) :
    Except (Text × Nat) Script :=
  let line := fun (rest : Text) => (text.take (text.length - rest.length)).count '\n' + 1
  let (script, start) :=
    if script.isOpen then
      let lines := textLines 0 text
      (script.extend lines, lines.rest)
    else (script, text)
  match script.read manner (fun rest => (origin, line rest)) (text.length + 1) start with
  | .ok script => .ok script
  | .error (fault, rest) =>
    .error (origin.complaint (text.length - rest.length) (line rest) fault, fault.status)

/-- The labels that a list of instructions has. -/
def labels (program : List Instruction) : List Text :=
  program.filterMap fun i => match i.action with
    | .label name => some name
    | _ => none

/-- A jump to a label that is not there. -/
def missingLabel? (program : List Instruction) : Option Text :=
  program.findSome? fun i => match i.action with
    | .branch _ name => if name = [] || (labels program).contains name then none else some name
    | _ => none

/-- The script that pieces make up, or what the editor says about it and its status. -/
def Script.ofPieces (manner : Manner) (pieces : List (Origin × Text)) :
    Except (Text × Nat) Script := do
  let isQuiet := pieces.head?.any fun (_, text) => Text.startsWith ['#', 'n'] text
  let script ← pieces.foldlM (fun (script : Script) (piece : Origin × Text) =>
    script.addPiece manner piece.1 piece.2) { isQuiet }
  match script.blocks with
  | (origin, line) :: _ => throw (origin.complaint 0 line .unmatchedOpening, 1)
  | [] => pure ()
  match missingLabel? script.program with
  | some name => throw (Origin.complaint (.expression 1) 0 0 (.noLabel name), 4)
  | none => return script

end Marginalia.Shell.Editor
