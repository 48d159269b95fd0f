import Marginalia.Shell.Editor.Basic

/-!
# Running the editor

The instructions run on every line of an input, which knows its number, whether `$`
means it, and the file that it comes from. A run on one line is given fuel, because a
branch can go back. The last line may lack the mark at its end, and is then written
without it, unless more is written after it.
-/

namespace Marginalia.Shell.Editor

/-! ## Replacing -/

/-- A letter in a case. -/
def Case.apply (case : Case) (c : Char) : Char :=
  match case with
  | .plain => c
  | .upper => c.toUpper
  | .lower => c.toLower

/-- A text in a case, its first letter perhaps in another one. -/
def casedText (case : Case) (next : Option Case) : Text → Text
  | [] => []
  | c :: text => (next.getD case).apply c :: text.map case.apply

/-- A replacement with the match put in. -/
def fill (found : Text) (groups : List (Nat × Text)) (case : Case) (next : Option Case) :
    List Filler → Text
  | [] => []
  | .cased case :: fillers => fill found groups case none fillers
  | .casedNext next :: fillers => fill found groups case (some next) fillers
  | .char c :: fillers => casedText case next [c] ++ fill found groups case none fillers
  | .group index :: fillers =>
    let text := if index = 0 then found else (groups.lookup index).getD []
    casedText case next text ++ fill found groups case (if text = [] then next else none) fillers

/--
Replaces matches from a place on, given the number of matches so far. Right after
a match an empty one does not count. Each step but the last takes a character.
-/
def Substitution.applyFrom (s : Substitution) (search : Search) :
    Nat → (count : Nat) → (afterMatch : Bool) → Place → Text × Bool
  | 0, _, _, place => (place.after, false)
  | fuel + 1, count, afterMatch, place =>
    match search.pattern.find? search.anyCase place.before place.after with
    | none => (place.after, false)
    | some (start, m) =>
      let skipped := place.after.take (place.after.length - start.after.length)
      let found := start.after.take (start.after.length - m.place.after.length)
      let onwards := fun (place : Place) (count : Nat) =>
        match place.after with
        | [] => ([], false)
        | c :: _ =>
          let (text, replaced) := s.applyFrom search fuel count false (Regex.moveBy 1 place)
          (c :: text, replaced)
      if found = [] && skipped = [] && afterMatch then onwards start count
      else
        let count := count + 1
        let counts := s.first.getD 1 ≤ count
        let written := if counts then fill found m.groups .plain none s.replacement else found
        if counts && !s.everywhere then (skipped ++ written ++ m.place.after, true)
        else
          let (text, replaced) :=
            if found = [] then onwards start count else s.applyFrom search fuel count true m.place
          (skipped ++ written ++ text, counts || replaced)

/-- Replaces matches in a line; the second result says whether there was one. -/
def Substitution.apply (s : Substitution) (search : Search) (line : Text) : Text × Bool :=
  s.applyFrom search (line.length + 2) 0 false { after := line }

/-! ## Showing -/

/-- The pieces of a text in which each character shows what it is. -/
def revealed (text : Text) : List Text :=
  text.map fun c =>
    match [('\\', '\\'), ('\n', 'n'), ('\t', 't'), ('\x07', 'a'), ('\x08', 'b'), ('\x0c', 'f'),
      ('\r', 'r'), ('\x0b', 'v')].lookup c with
    | some letter => ['\\', letter]
    | none =>
      if ' ' ≤ c && c ≤ '~' then [c]
      else
        let digits := Nat.toDigits 8 c.toNat
        '\\' :: List.replicate (3 - digits.length) '0' ++ digits

/-- Pieces in lines of a width, each but the last with a backslash at its end. -/
def folded (width : Nat) (pieces : List Text) : Text :=
  let (text, line) := pieces.foldl (fun ((text, line) : Text × Text) piece =>
    if 0 < width && width - 1 < line.length + piece.length then
      (text ++ line ++ ['\\', '\n'], piece)
    else (text, line ++ piece)) ([], [])
  text ++ line ++ ['$']

/-! ## The state -/

/-- A line of the input. -/
structure Line where
  text : Text
  /-- Whether a mark ends it. -/
  isWhole : Bool := true
  number : Nat
  /-- Whether it is the last one. -/
  isLast : Bool
  /-- The name of the file that it comes from. -/
  name : Text
  /-- The index of that file. -/
  part : Nat := 0
  /-- Whether ranges of lines end before it. -/
  isNew : Bool := false

/-- What a run of the editor has to do. -/
structure Job where
  program : List Instruction
  /-- Whether lines are not printed unless an instruction says so. -/
  isQuiet : Bool := false
  /-- What ends a line. -/
  mark : Char := '\n'
  /-- The width at which shown lines are folded. -/
  width : Nat := 70
  /-- Whether every file gets what is made of it. -/
  inPlace : Bool := false
  /-- The text of a file that an instruction names. -/
  fileText : Text → Text

/-- Where the editing of an input stands. -/
structure Editing where
  /-- The line that is being edited. -/
  space : Text := []
  /-- Whether the line has its mark at the end. -/
  isWhole : Bool := true
  held : Text := []
  isHeldWhole : Bool := true
  number : Nat := 0
  isLast : Bool := false
  name : Text := ['-']
  part : Nat := 0
  /-- The lines that were not read yet. -/
  input : List Line
  output : Text := []
  /-- Whether a mark is missing at the end of the output. -/
  owesMark : Bool := false
  /-- What came of the files that are done with. -/
  finished : List (Nat × Text) := []
  /-- What is printed at the end of the cycle. -/
  queue : Text := []
  replaced : Bool := false
  lastSearch : Option Search := none
  /-- The instructions whose range of lines is open, with the line where it ends if known. -/
  ranges : List (Nat × Option Nat) := []
  status : Nat := 0
  /-- What was written to files, and whether a mark is missing at its end. -/
  files : List (Text × Text × Bool) := []
  /-- The lines of files that were not printed yet. -/
  readers : List (Text × List Text) := []
  fault : Option Fault := none

namespace Editing

/-- Prints a text as it is. -/
def emit (job : Job) (e : Editing) (text : Text) : Editing :=
  if text = [] then e
  else
    { e with
      output := e.output ++ (if e.owesMark then [job.mark] else []) ++ text
      owesMark := false }

/-- Writes the mark that is missing at the end of the output. -/
def settle (job : Job) (e : Editing) : Editing :=
  if e.owesMark then { e with output := e.output ++ [job.mark], owesMark := false } else e

/-- Takes the next line of the input, if there is one, and adds it to what is given. What comes of
a file is set apart where files are edited in their places. -/
def advance? (job : Job) (e : Editing) (before : Text) : Option Editing :=
  match e.input with
  | [] => none
  | line :: input =>
    let e :=
      if !job.inPlace || line.part = e.part then e
      else
        { e with
          finished := e.finished ++ [(e.part, e.output)], output := [], owesMark := false }
    some { e with
      space := before ++ line.text
      isWhole := line.isWhole
      input
      number := line.number
      isLast := line.isLast
      name := line.name
      part := line.part
      ranges := if line.isNew then [] else e.ranges
      replaced := false }

/-- Prints a line; the last one ends as it does in the input. -/
def emitLine (job : Job) (e : Editing) (line : Text) : Editing :=
  if !e.isWhole then
    { e with
      output := e.output ++ (if e.owesMark then [job.mark] else []) ++ line
      owesMark := true }
  else e.emit job (line ++ [job.mark])

/-- Writes a line to a file; the last one ends as it does in the input. -/
def store (job : Job) (e : Editing) (path line : Text) (isWhole : Bool) : Editing :=
  if path = "/dev/stdout".toList && !job.inPlace then
    { ({ e with isWhole }).emitLine job line with isWhole := e.isWhole }
  else
    let (old, owes) := (Dict.get? path e.files).getD ([], false)
    let text := old ++ (if owes then [job.mark] else []) ++ line ++
      (if isWhole then [job.mark] else [])
    { e with files := Dict.put path (text, !isWhole) e.files }

/-- Prints what waits for the end of the cycle. -/
def flush (job : Job) (e : Editing) : Editing := { e.emit job e.queue with queue := [] }

/-- The search that is meant, which is the last one from now on; without one it is a fault. -/
def recallSearch (e : Editing) (search : Option Search) : Option Search × Editing :=
  match search.or e.lastSearch with
  | some search => (some search, { e with lastSearch := some search })
  | none => (none, { e with fault := e.fault.or (some .noSearch) })

/-- Whether the line has an address. -/
def isAt (e : Editing) : Address → Bool × Editing
  | .line number => (e.number = number, e)
  | .last => (e.isLast, e)
  | .matching search =>
    let (search, e) := e.recallSearch search
    (search.any fun s => (s.pattern.find? s.anyCase [] e.space).isSome, e)
  | .every first step => (first ≤ e.number && (e.number - first) % step = 0, e)

/-- Opens the range of an instruction, which ends at a line if that is known. -/
def openRange (e : Editing) (index : Nat) (last : Option Nat) : Editing :=
  { e with ranges := (index, last) :: e.ranges.filter fun (other, _) => other != index }

/-- Closes the range of an instruction. -/
def closeRange (e : Editing) (index : Nat) : Editing :=
  { e with ranges := e.ranges.filter fun (other, _) => other != index }

/-- Opens a range that ends at a line, unless that is reached already. -/
def openUpTo (e : Editing) (index last : Nat) : Editing :=
  if last ≤ e.number then e.closeRange index else e.openRange index (some last)

/-- Whether a range starts at the line, and what is kept in mind of it. -/
def starts (e : Editing) (index : Nat) (start : Address) (limit : Limit) : Bool × Editing :=
  match start, limit with
  | .line 0, .address address =>
    if e.number ≠ 1 then (false, e)
    else
      let (ends, e) := e.isAt address
      (true, if ends then e.closeRange index else e.openRange index none)
  | start, limit =>
    match e.isAt start with
    | (false, e) => (false, e.closeRange index)
    | (true, e) =>
      match limit with
      | .further count => (true, e.openUpTo index (e.number + count))
      | .multiple factor =>
        let last := if factor = 0 then 0 else (e.number / factor + 1) * factor
        (true, e.openUpTo index last)
      | .address (.line number) => (true, e.openUpTo index number)
      | .address _ => (true, e.openRange index none)

/-- Whether the instruction at an index is about the line, and what it keeps in mind. -/
def selects (e : Editing) (index : Nat) (i : Instruction) : Bool × Editing :=
  match i.start, i.limit with
  | none, _ => (true, e)
  | some start, none => e.isAt start
  | some start, some limit =>
    match e.ranges.lookup index, limit with
    | none, _ => e.starts index start limit
    | some (some last), _ =>
      if e.number < last then (true, e)
      else if e.number = last then (true, e.closeRange index)
      else e.starts index start limit
    | some none, .address address =>
      let (ends, e) := e.isAt address
      (true, if ends then e.closeRange index else e)
    | some none, _ => (true, e.closeRange index)

/-- The line before the first mark in the edited text. -/
def firstLine (job : Job) (e : Editing) : Text := e.space.takeWhile (· ≠ job.mark)

/-- The next line of a file, with what ends it, and the state after it. -/
def nextOf (job : Job) (e : Editing) (path : Text) : Text × Editing :=
  let rest := (Dict.get? path e.readers).getD (linesOf (job.fileText path))
  (rest.headD [], { e with readers := Dict.put path rest.tail e.readers })
where
  /-- The lines of a text as they are written. -/
  linesOf (text : Text) : List Text :=
    let pieces := Text.splitOn job.mark text
    pieces.dropLast.map (· ++ [job.mark]) ++ (pieces.getLast?.filter (· ≠ [])).toList

end Editing

/-! ## Runs -/

/-- How a run of the instructions ends. -/
inductive Outcome where
  | done
  /-- The line is not printed. -/
  | dropped
  /-- The instructions run again without a new line. -/
  | again
  | quit
  deriving DecidableEq, Repr

/-- The index after the block that opens before an index. -/
def afterBlock : (index depth : Nat) → List Instruction → Nat
  | index, _, [] => index
  | index, depth, i :: rest =>
    match i.action, depth with
    | .closing, 0 => index + 1
    | .closing, depth + 1 => afterBlock (index + 1) depth rest
    | .opening, depth => afterBlock (index + 1) (depth + 1) rest
    | _, depth => afterBlock (index + 1) depth rest

/-- The index of a label; no name is the end. -/
def labelIndex (program : List Instruction) (name : Text) : Nat :=
  (program.findIdx? fun i => match i.action with
    | .label other => name != [] && other == name
    | _ => false).getD program.length

/-- Replaces in the line what a substitution says. -/
def Editing.substitute (job : Job) (e : Editing) (s : Substitution) : Editing :=
  match e.recallSearch s.search with
  | (none, e) => e
  | (some search, e) =>
    if search.groups < lastGroup s.replacement then
      { e with fault := some (.noGroup (lastGroup s.replacement)) }
    else
      match s.apply search e.space with
      | (_, false) => e
      | (space, true) =>
        let e := { e with space, replaced := true }
        let e := if s.prints then e.emitLine job space else e
        match s.target with
        | some path => e.store job path space e.isWhole
        | none => e

/-- Does what an instruction does within a line, if it leaves the order of things alone. -/
def Editing.perform (job : Job) (e : Editing) (action : Action) : Editing :=
  match action with
  | .substitute s => e.substitute job s
  | .replaceEach pairs =>
    { e with space := e.space.map fun c => (pairs.lookup c).getD c }
  | .print => e.emitLine job e.space
  | .printFirst =>
    if e.space.contains job.mark then e.emit job (e.firstLine job ++ [job.mark])
    else e.emitLine job e.space
  | .number => e.emit job (Text.ofNat e.number ++ [job.mark])
  | .append text => { e with queue := e.queue ++ text }
  | .copy path => { e with queue := e.queue ++ job.fileText path }
  | .copyLine path =>
    let (line, e) := e.nextOf job path
    { e with queue := e.queue ++ line }
  | .insert text => e.emit job text
  | .write isFirst path =>
    if isFirst then e.store job path (e.firstLine job) true else e.store job path e.space e.isWhole
  | .reveal width => e.emit job (folded (width.getD job.width) (revealed e.space) ++ ['\n'])
  | .inputName => e.emit job (e.name ++ [job.mark])
  | .hold => { e with held := e.space, isHeldWhole := e.isWhole }
  | .holdMore => { e with held := e.held ++ job.mark :: e.space, isHeldWhole := e.isWhole }
  | .recall => { e with space := e.held, isWhole := e.isHeldWhole }
  | .recallMore => { e with space := e.space ++ job.mark :: e.held, isWhole := e.isHeldWhole }
  | .exchange =>
    { e with
      space := e.held
      held := e.space
      isWhole := e.isHeldWhole
      isHeldWhole := e.isWhole }
  | .clear => { e with space := [] }
  | _ => e

/-- Whether a jump is made. -/
def Condition.holds (condition : Condition) (e : Editing) : Bool :=
  match condition with
  | .always => true
  | .replaced => e.replaced
  | .notReplaced => !e.replaced

/-- Runs the instructions from an index on. -/
def runFrom (job : Job) : Nat → (index : Nat) → Editing → Editing × Outcome
  | 0, _, e => (e, .done)
  | fuel + 1, index, e =>
    match job.program[index]? with
    | none => (e, .done)
    | some i =>
      let go := fun (e : Editing) => runFrom job fuel (index + 1) e
      let (selected, e) := e.selects index i
      if e.fault.isSome then (e, .quit)
      else if selected = i.negated then
        match i.action with
        | .opening => runFrom job fuel (afterBlock (index + 1) 0 (job.program.drop (index + 1))) e
        | _ => go e
      else
        match i.action with
        | .delete => (e, .dropped)
        | .deleteFirst =>
          match Text.cut? job.mark e.space with
          | none => (e, .dropped)
          | some (_, after) => ({ e with space := after }, .again)
        | .quit false status => ({ e with status }, .quit)
        | .quit true status =>
          let e := if job.isQuiet then e else e.emitLine job e.space
          ({ (e.flush job).settle job with status }, .quit)
        | .change text =>
          let isOpen := (e.ranges.lookup index).isSome && !i.negated
          (if isOpen then e else e.emit job text, .dropped)
        | .advance =>
          if e.input.isEmpty then (if job.isQuiet then e else e.emitLine job e.space, .quit)
          else
            let printed := if job.isQuiet then e else e.emitLine job e.space
            match (printed.flush job).advance? job [] with
            | none => (printed, .quit)
            | some e => go e
        | .join =>
          match (e.flush job).advance? job (e.space ++ [job.mark]) with
          | none => (if job.isQuiet then e else e.emitLine job e.space, .quit)
          | some e => go e
        | .branch condition name =>
          if condition.holds e then
            let e := if condition = .replaced then { e with replaced := false } else e
            runFrom job fuel (labelIndex job.program name) e
          else go (if condition = .notReplaced then { e with replaced := false } else e)
        | action =>
          let e := e.perform job action
          if e.fault.isSome then (e, .quit) else go e

/-- The number of instructions that are run on one line at most. -/
def stepLimit : Nat := 100000

/-- Edits line by line; every cycle but one that runs again takes a line. -/
def cycles (job : Job) : Nat → (fresh : Bool) → Editing → Editing
  | 0, _, e => e
  | fuel + 1, fresh, e =>
    let run := fun (e : Editing) =>
      match runFrom job stepLimit 0 e with
      | (e, .done) =>
        cycles job fuel true ((if job.isQuiet then e else e.emitLine job e.space).flush job)
      | (e, .dropped) => cycles job fuel true (e.flush job)
      | (e, .again) => cycles job fuel false (e.flush job)
      | (e, .quit) => if e.fault.isSome then e else e.flush job
    if fresh then
      match e.advance? job [] with
      | none => e
      | some e => run e
    else run e

/-- The files that a list of instructions writes to. -/
def targets (program : List Instruction) : List Text :=
  (program.filterMap fun i => match i.action with
    | .write _ path => some path
    | .substitute s => s.target
    | _ => none).eraseDups

/-- What comes of editing lines. -/
def Job.edit (job : Job) (input : List Line) : Editing :=
  let size := input.foldl (fun n line => n + line.text.length + 1) 0
  let files := (targets job.program).map fun path => (path, [], false)
  let part := (input.head?.map (·.part)).getD 0
  cycles job (2 * size + 2) true { input, files, part }

end Marginalia.Shell.Editor
