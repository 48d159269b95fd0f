import Marginalia.Shell.Regex
import Marginalia.Shell.Request

/-!
# Programs that copy

The programs that copy files to what they print: as they are, with their lines
numbered or their control characters made visible, from a line on or up to one, or
in reverse.
-/

namespace Marginalia.Shell.Utility

/-! ## Whole files -/

/-- How a copy of a file shows it. -/
structure Display where
  numbers : Bool := false
  /-- Whether lines without text are not numbered. -/
  skipsBlank : Bool := false
  /-- Whether of several lines without text one is left. -/
  squeezes : Bool := false
  showsEnds : Bool := false
  showsTabs : Bool := false
  showsControls : Bool := false

/-- A display that shows everything as it is. -/
def Display.isPlain (display : Display) : Bool :=
  !(display.numbers || display.squeezes || display.showsEnds || display.showsTabs ||
    display.showsControls)

/-- The display that options ask for. -/
def Display.ofOptions (found : List (Char × Text)) : Display :=
  let any := fun (letters : String) => letters.toList.any (has found)
  { numbers := any "nb"
    skipsBlank := any "b"
    squeezes := any "s"
    showsEnds := any "eEA"
    showsTabs := any "tTA"
    showsControls := any "vetA" }

/-- A byte below 128 as it is shown if control characters are made visible. -/
def caret (n : Nat) : Text :=
  if n < 32 then ['^', .ofNat (n + 64)] else if n = 127 then ['^', '?'] else [.ofNat n]

/-- A character within a line as it is shown. -/
def Display.char (display : Display) (c : Char) : Text :=
  if c = '\t' then if display.showsTabs then ['^', 'I'] else [c]
  else if !display.showsControls then [c]
  else if c.toNat < 128 then caret c.toNat
  else 'M' :: '-' :: caret (c.toNat - 128)

/-- Where a copy stands between lines. -/
structure CopyState where
  number : Nat := 1
  /-- Whether the last line was one without text. -/
  afterBlank : Bool := false
  /-- Whether the last line has not come to its end. -/
  isOpen : Bool := false
  /-- What is printed, the last part first. -/
  done : List Text := []

/-- Copies one line, which may lack its newline. -/
def Display.copyLine (display : Display) (state : CopyState) (line : Text) : CopyState :=
  let ends := line.getLast? = some '\n'
  let isBlank := !state.isOpen && line = ['\n']
  if display.squeezes && isBlank && state.afterBlank then state
  else
    let isNumbered := display.numbers && !state.isOpen && !(display.skipsBlank && isBlank)
    let start := if isNumbered then toRight 6 (Text.ofNat state.number) ++ ['\t'] else []
    let body := if ends then line.dropLast else line
    let text := match Text.dropEnd? ['\r'] body with
      | some body =>
        if ends && display.showsEnds then body.flatMap display.char ++ ['^', 'M']
        else (body ++ ['\r']).flatMap display.char
      | none => body.flatMap display.char
    let stop := if ends then if display.showsEnds then ['$', '\n'] else ['\n'] else []
    { number := if isNumbered then state.number + 1 else state.number
      afterBlank := isBlank
      isOpen := !ends
      done := (start ++ text ++ stop) :: state.done }

/-- Copies files. -/
def cat (request : Request) : Effect :=
  withOptions request "benstuvAET"
    [("number-nonblank", 'b'), ("number", 'n'), ("squeeze-blank", 's'),
      ("show-nonprinting", 'v'), ("show-ends", 'E'), ("show-tabs", 'T'), ("show-all", 'A')]
    fun found operands =>
      let display := Display.ofOptions found
      if display.isPlain then each request operands fun text => text
      else
        let step := fun (state : CopyState × List (Nat × Text) × Nat)
            (source : Text × Except Disk.Cause Text) =>
          let (copy, written, status) := state
          match source.2 with
          | .error cause => (copy, (2, unreadable request source.1 cause) :: written, 1)
          | .ok text =>
            let copy := (writtenAt '\n' text).foldl display.copyLine { copy with done := [] }
            (copy, (1, copy.done.reverse.flatten) :: written, status)
        let (_, written, status) :=
          (contents request (sources operands)).foldl step ({}, [], 0)
        { written := written.reverse, status, reads := readsInput operands }

/-- Copies the input to files as well. -/
def tee (request : Request) : Effect :=
  withOptions request "aip"
    [("append", 'a'), ("ignore-interrupts", 'i'), ("output-error[=", 'p')]
    fun found operands =>
      let step := fun (state : Disk × List (Nat × Text)) (operand : Text) =>
        let path := decodeText operand
        let old := if has found 'a' then ((state.1.readFile path).toOption.getD []) else []
        match state.1.writeFile path (old ++ streamBytes request.stdin) with
        | (.ok (), disk) => (disk, state.2)
        | (.error (.refused cause _), disk) =>
          (disk, state.2 ++ [(2, unreadable request operand cause)])
        | (.error _, disk) => (disk, state.2)
      let copies := operands.filter fun operand => !isInput operand
      let (disk, complaints) := copies.foldl step (request.disk, [])
      { written := complaints ++ [(1, request.stdin)]
        status := if complaints.isEmpty then 0 else 1
        reads := true
        disk := some disk }

/-! ## Parts of files -/

/-- A part of a file at its start or end. -/
structure Portion where
  /-- Whether lines are counted, and not bytes. -/
  ofLines : Bool := true
  count : Nat := 10
  /-- Whether the count says where the part starts or ends, from the other side of the file. -/
  isRest : Bool := false
  mark : Char := '\n'
  deriving Repr

/-- How many pieces the part at the start has. -/
def Portion.firstSize (portion : Portion) (size : Nat) : Nat :=
  if portion.isRest then size - portion.count else portion.count

/-- How many pieces stand before the part at the end. -/
def Portion.skipped (portion : Portion) (size : Nat) : Nat :=
  if portion.isRest then portion.count - 1 else size - portion.count

/-- The part at the start of a text. -/
def Portion.first (portion : Portion) (text : Text) : Text :=
  if portion.ofLines then
    let pieces := writtenAt portion.mark text
    (pieces.take (portion.firstSize pieces.length)).flatten
  else text.take (portion.firstSize text.length)

/-- The part at the end of a text. -/
def Portion.last (portion : Portion) (text : Text) : Text :=
  if portion.ofLines then
    let pieces := writtenAt portion.mark text
    (pieces.drop (portion.skipped pieces.length)).flatten
  else text.drop (portion.skipped text.length)

/-- The letters after a number in an option of the older form, as options of their own. -/
def olderLetters : Text → List Text
  | [] => []
  | c :: rest =>
    if "qvzf".toList.contains c then ['-', c] :: olderLetters rest else olderLetters rest

/--
An option of the older form, a number with letters after it, in the newer form. The
letter `c` stands for bytes, and a unit stands for bytes as well.
-/
def olderForm? (sign : Char) (text : Text) : Option (List Text) :=
  let digits := text.takeWhile Char.isDigit
  let letters := text.drop digits.length
  if digits = [] || !letters.all "bcklmqvzf".toList.contains then none
  else
    let units := letters.filter "bkm".toList.contains
    let unit := (units.getLast?.map fun c => if c = 'm' then 'M' else c).toList
    let letter := if letters.contains 'c' || !unit.isEmpty then 'c' else 'n'
    let number := if sign = '+' then '+' :: digits else digits
    some (['-', letter] :: (number ++ unit) :: olderLetters letters)

/-- Arguments of which the first may be an option of the older form. -/
def withoutOlderForm (hasPlus : Bool) (arguments : List Text) : List Text :=
  match arguments with
  | ('-' :: text) :: rest => ((olderForm? '-' text).map (· ++ rest)).getD arguments
  | ('+' :: text) :: rest =>
    if hasPlus && rest.length ≤ 1 then ((olderForm? '+' text).map (· ++ rest)).getD arguments
    else arguments
  | arguments => arguments

/-- The part that options ask for, or what is wrong with a number. -/
def portion? (found : List (Char × Text)) (restSign : Char) : Except Text Portion :=
  match lastOf? found ['c', 'n'] with
  | none => .ok { mark := lineMark found }
  | some letter =>
    let value := (valueOf? found letter).getD []
    let sign := value.head?.filter fun c => c == '-' || c == '+'
    match size? (if sign.isSome then value.tail else value) with
    | some count =>
      .ok { ofLines := letter == 'n', count, isRest := sign = some restSign, mark := lineMark found }
    | none =>
      let unit := if letter = 'n' then "lines" else "bytes"
      .error ("invalid number of ".toList ++ unit.toList ++ ": ".toList ++ quoted value)

/-- A title before a file. -/
def title (isFirst : Bool) (operand : Text) : Text :=
  let name := if operand = ['-'] then "standard input".toList else operand
  (if isFirst then [] else ['\n']) ++ "==> ".toList ++ name ++ " <==\n".toList

/-- Prints a part of each operand, with titles if there are several or if they are asked for. -/
def cutEach (request : Request) (found : List (Char × Text)) (operands : List Text)
    (part : Text → Text) : Effect :=
  let isTitled := match lastOf? found ['q', 'v'] with
    | some letter => letter == 'v'
    | none => 1 < operands.length
  let step := fun (state : List (Nat × Text) × Bool × Nat)
      (source : Text × Except Disk.Cause Text) =>
    let (done, isFirst, status) := state
    let start := if isTitled then title isFirst source.1 else []
    match source.2 with
    | .ok text => (done ++ [(1, start ++ part text)], false, status)
    | .error .isDirectory =>
      (done ++ [(1, start), (2, unreadable request source.1 .isDirectory)], false, 1)
    | .error cause => (done ++ [(2, unreadable request source.1 cause)], isFirst, 1)
  let (written, _, status) := (contents request (sources operands)).foldl step ([], true, 0)
  { written, status, reads := readsInput operands }

/-- The start of files. -/
def head (request : Request) : Effect :=
  let newer := { request with arguments := withoutOlderForm false request.arguments }
  withOptions newer "c:n:qvz"
    [("bytes=", 'c'), ("lines=", 'n'), ("quiet", 'q'), ("silent", 'q'), ("verbose", 'v'),
      ("zero-terminated", 'z')]
    fun found operands =>
      match portion? found '-' with
      | .error message => refuse request message 1
      | .ok portion =>
        let effect := cutEach request found operands portion.first
        if portion.isRest then effect
        else { effect with taken := some (portion.first request.stdin).length }

/-- The end of files. -/
def tail (request : Request) : Effect :=
  let newer := { request with arguments := withoutOlderForm true request.arguments }
  withOptions newer "c:n:fFqs:vz"
    [("bytes=", 'c'), ("lines=", 'n'), ("follow[=", 'f'), ("pid=", 'p'), ("quiet", 'q'),
      ("silent", 'q'), ("verbose", 'v'), ("zero-terminated", 'z'), ("retry", 'r'),
      ("sleep-interval=", 's')]
    fun found operands =>
      match portion? found '+' with
      | .error message => refuse request message 1
      | .ok portion => cutEach request found operands portion.last

/-! ## Reversal -/

/-- The pieces of a text that marks divide, each with the mark after it or before it. -/
def piecesAround (pattern : Regex) (isBefore : Bool) (open_ : Text) (isOpen : Bool) :
    (fuel : Nat) → Place → List Text
  | 0, _ => []
  | fuel + 1, place =>
    match pattern.find? false place.before place.after with
    | none =>
      let last := open_ ++ place.after
      if last = [] && !(isBefore && isOpen) then [] else [last]
    | some (start, found) =>
      let before := place.after.take (place.after.length - start.after.length)
      let mark := start.after.take (start.after.length - found.place.after.length)
      if mark = [] then [open_ ++ place.after]
      else if isBefore then
        let piece := open_ ++ before
        (if piece = [] then [] else [piece]) ++
          piecesAround pattern isBefore mark true fuel found.place
      else (open_ ++ before ++ mark) :: piecesAround pattern isBefore [] false fuel found.place

/-- The lines of files in reverse. -/
def tac (request : Request) : Effect :=
  withOptions request "brs:" [("before", 'b'), ("regex", 'r'), ("separator=", 's')]
    fun found operands =>
      let mark := (valueOf? found 's').getD ['\n']
      let fixed := Regex.ofAtoms (mark.reverse.map .char)
      let pattern :=
        if has found 'r' then
          ((Regex.parse { isLenient := true } mark).map (·.regex)).toOption.getD fixed
        else fixed
      let mark := if mark = [] then ['\x00'] else mark
      each request operands fun text =>
        let pieces :=
          if mark = ['\n'] && !has found 'b' then writtenAt '\n' text
          else piecesAround pattern (has found 'b') [] false (text.length + 1) { after := text }
        pieces.reverse.flatten

/-- The characters of lines in reverse. -/
def rev (request : Request) : Effect :=
  withOptions request "0" [("zero", '0')] fun found operands =>
    let mark := if has found '0' then '\x00' else '\n'
    each request operands fun text =>
      List.intercalate [mark] ((Text.splitOn mark text).map List.reverse)

end Marginalia.Shell.Utility
