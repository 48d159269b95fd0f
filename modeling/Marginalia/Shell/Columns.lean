import Marginalia.Shell.Regex
import Marginalia.Shell.Request

/-!
# Programs that arrange lines

The programs that number lines, fold those that are too long, and write blanks for
tabs or tabs for blanks.
-/

namespace Marginalia.Shell.Utility

/-! ## Numbering -/

/-- Which lines of a section are numbered. -/
inductive Numbering where
  | all
  | none
  | nonempty
  | matching (pattern : Regex)

/-- The numbering that a style asks for. -/
def numbering? (style : Text) : Option Numbering :=
  match style with
  | ['a'] => some .all
  | ['n'] => some .none
  | ['t'] => some .nonempty
  | 'p' :: pattern =>
    ((Regex.parse { isLenient := true } pattern).map fun read => .matching read.regex).toOption
  | _ => Option.none

/-- A signed number without a fraction. -/
def signed? (text : Text) : Option Int := count? text

/-- How lines are numbered. -/
structure NumberedLayout where
  header : Numbering := .none
  body : Numbering := .nonempty
  footer : Numbering := .none
  /-- The mark that starts a section: once for the footer, twice for the body. -/
  mark : Text := ['\\', ':']
  start : Int := 1
  step : Int := 1
  /-- How many lines without text count as one. -/
  blanks : Nat := 1
  format : Text := ['r', 'n']
  restarts : Bool := true
  separator : Text := ['\t']
  width : Nat := 6

/-- A number in its column. -/
def NumberedLayout.number (layout : NumberedLayout) (n : Int) : Text :=
  let digits := Text.ofInt n
  match layout.format with
  | ['l', 'n'] => digits ++ List.replicate (layout.width - digits.length) ' '
  | ['r', 'z'] =>
    let (sign, digits) := match digits with
      | '-' :: digits => (['-'], digits)
      | digits => ([], digits)
    sign ++ List.replicate (layout.width - sign.length - digits.length) '0' ++ digits
  | _ => toRight layout.width digits

/-- Where the numbering stands. -/
structure NumberState where
  next : Int
  present : Numbering
  blanks : Nat := 0
  /-- The rows, the last one first. -/
  rows : List Text := []

/-- The section that a line starts. -/
def NumberedLayout.section? (layout : NumberedLayout) (line : Text) : Option Numbering :=
  if layout.mark = [] then none
  else if line = layout.mark ++ layout.mark ++ layout.mark then some layout.header
  else if line = layout.mark ++ layout.mark then some layout.body
  else if line = layout.mark then some layout.footer
  else none

/-- Adds the row for a line. -/
def NumberedLayout.add (layout : NumberedLayout) (state : NumberState) (line : Text) :
    NumberState :=
  match layout.section? line with
  | some present =>
    { state with
      present
      next := if layout.restarts then layout.start else state.next
      rows := [] :: state.rows }
  | none =>
    let blanks := if line = [] then state.blanks + 1 else state.blanks
    let isNumbered := match state.present with
      | .all => line ≠ [] || layout.blanks ≤ max 1 blanks
      | .none => false
      | .nonempty => line ≠ []
      | .matching pattern => (pattern.find? false [] line).isSome
    if isNumbered then
      { state with
        next := state.next + layout.step
        blanks := 0
        rows := (layout.number state.next ++ layout.separator ++ line) :: state.rows }
    else
      let gap := List.replicate (layout.width + layout.separator.length) ' '
      { state with blanks, rows := (gap ++ line) :: state.rows }

/-- The layout that options ask for, or what is wrong with them. -/
def numberedLayout (request : Request) (found : List (Char × Text)) :
    Except Text NumberedLayout := do
  let style := fun (letter : Char) (section_ : String) (standard : Numbering) =>
    match valueOf? found letter with
    | none => Except.ok standard
    | some text =>
      match numbering? text with
      | some numbering => .ok numbering
      | none =>
        .error ("invalid ".toList ++ section_.toList ++ " numbering style: ".toList ++
          quoted text ++ hint request)
  let number := fun (letter : Char) (name : String) (least : Option Int) (standard : Int) =>
    match valueOf? found letter with
    | none => Except.ok standard
    | some text =>
      let fault := "invalid ".toList ++ name.toList ++ ": ".toList ++ quoted text
      match signed? text with
      | none => .error fault
      | some n =>
        if least.any (n < ·) then .error (fault ++ ": Numerical result out of range".toList)
        else .ok n
  let format := (valueOf? found 'n').getD ['r', 'n']
  let start ← number 'v' "starting line number" none 1
  let step ← number 'i' "line number increment" none 1
  let blanks ← number 'l' "line number of blank lines" (some 1) 1
  let width ← number 'w' "line number field width" (some 1) 6
  let header ← style 'h' "header" .none
  let body ← style 'b' "body" .nonempty
  let footer ← style 'f' "footer" .none
  if !(["ln", "rn", "rz"].contains (String.ofList format)) then
    throw ("invalid line numbering format: ".toList ++ quoted format ++ hint request)
  let mark := match valueOf? found 'd' with
    | some [c] => [c, ':']
    | some mark => mark
    | none => ['\\', ':']
  return {
    header, body, footer, mark, start, step, format
    blanks := blanks.toNat
    restarts := !has found 'p'
    separator := (valueOf? found 's').getD ['\t']
    width := width.toNat }

/-- Numbers lines. -/
def nl (request : Request) : Effect :=
  withOptions request "b:d:f:h:i:l:n:ps:v:w:"
    [("body-numbering=", 'b'), ("section-delimiter=", 'd'), ("footer-numbering=", 'f'),
      ("header-numbering=", 'h'), ("line-increment=", 'i'), ("join-blank-lines=", 'l'),
      ("number-format=", 'n'), ("no-renumber", 'p'), ("number-separator=", 's'),
      ("starting-line-number=", 'v'), ("number-width=", 'w')]
    fun found operands =>
      match numberedLayout request found with
      | .error message => refuse request message 1
      | .ok layout =>
        together request operands (fun text =>
          let start : NumberState := { next := layout.start, present := layout.body }
          (Text.unlines ((lines text).foldl layout.add start).rows.reverse, 0)) 1

/-! ## Folding -/

/-- The column after a character, or the number of bytes up to it. -/
def columnAfter (ofBytes : Bool) (column : Nat) (c : Char) : Nat :=
  if ofBytes then column + 1
  else if c = '\t' then column + 8 - column % 8
  else if c = '\x08' then column - 1
  else if c = '\r' then 0
  else column + 1

/-- A line cut into pieces that fit a width, the rest of the present piece being `piece`. -/
def foldLine (width : Nat) (atBlanks ofBytes : Bool) (piece : Text) (column : Nat) :
    Text → List Text
  | [] => [piece.reverse]
  | c :: line =>
    let after := columnAfter ofBytes column c
    if after ≤ width || piece = [] then foldLine width atBlanks ofBytes (c :: piece) after line
    else
      let tail := piece.takeWhile fun d => d != ' ' && d != '\t'
      if atBlanks && tail.length < piece.length then
        let column := tail.reverse.foldl (columnAfter ofBytes) 0
        (piece.drop tail.length).reverse ::
          foldLine width atBlanks ofBytes (c :: tail) (columnAfter ofBytes column c) line
      else
        piece.reverse :: foldLine width atBlanks ofBytes [c] (columnAfter ofBytes 0 c) line

/-- Cuts lines that are too long. -/
def fold (request : Request) : Effect :=
  withOptions request "bsw:0::1::2::3::4::5::6::7::8::9::"
    [("bytes", 'b'), ("spaces", 's'), ("width=", 'w')]
    fun found operands =>
      let widths := found.filterMap fun (letter, value) =>
        if letter = 'w' then some value
        else if letter.isDigit then some (letter :: value)
        else none
      let value := widths.getLastD "80".toList
      match natural? value with
      | none => refuse request ("invalid number of columns: ".toList ++ quoted value) 1
      | some 0 =>
        refuse request
          ("invalid number of columns: ".toList ++ quoted value ++
            ": Numerical result out of range".toList) 1
      | some width =>
        each request operands fun text =>
          let pieces := (Text.splitOn '\n' text).flatMap
            (foldLine width (has found 's') (has found 'b') [] 0)
          List.intercalate ['\n'] pieces

/-! ## Tabs -/

/-- The columns at which tabs end. -/
structure TabStops where
  columns : List Nat := []
  /-- How far tabs after the last column reach, and the column they are counted from. -/
  repeated : Option (Nat × Nat) := none

/-- The end of a tab at a column; after the last one there is none. -/
def TabStops.next? (stops : TabStops) (column : Nat) : Option Nat :=
  (stops.columns.find? (column < ·)).or
    (stops.repeated.map fun (size, start) => column + size - (column - start) % size)

/-- Tab stops at every multiple of a size. -/
def TabStops.every (size : Nat) : TabStops := { repeated := some (size, 0) }

/-- The tab stops that a list writes, or what is wrong with it. -/
def tabStops (text : Text) : Except Text TabStops := do
  let pieces := (((text.map fun c => if c = ' ' || c = '\t' then ',' else c) |>
    Text.splitOn ',').filter (· ≠ []))
  let step := fun (stops : TabStops) (piece : Text) => do
    let (sign, digits) := match piece with
      | '/' :: digits => (some '/', digits)
      | '+' :: digits => (some '+', digits)
      | digits => (none, digits)
    if stops.repeated.isSome then
      throw ("'/' specifier only allowed with the last value".toList)
    match natural? digits with
    | none =>
      throw ("tab size contains invalid character(s): ".toList ++
        quoted (digits.dropWhile Char.isDigit))
    | some size =>
      let last := stops.columns.getLastD 0
      match sign with
      | some '/' => return { stops with repeated := if size = 0 then none else some (size, 0) }
      | some _ => return { stops with repeated := if size = 0 then none else some (size, last) }
      | none =>
        if size = 0 then throw "tab size cannot be 0".toList
        if size ≤ last then throw "tab sizes must be ascending".toList
        return { stops with columns := stops.columns ++ [size] }
  let stops ← pieces.foldlM step {}
  match stops.columns, stops.repeated with
  | [], none => return .every 8
  | [size], none => return .every size
  | _, _ => return stops

/-- The list of tab stops among options, some of which are digits of it. -/
def tabList (found : List (Char × Text)) : Text :=
  let pieces := found.foldl (fun (done : Text × Bool) (letter, value) =>
    let (text, inDigits) := done
    if letter = 't' then (text ++ (if text = [] then [] else [',']) ++ value, false)
    else if letter.isDigit || letter = ',' then
      (text ++ (if inDigits || text = [] then [] else [',']) ++ [letter], true)
    else done) ([], false)
  pieces.1

/-- Where the writing of blanks for tabs stands. -/
structure ExpandState where
  column : Nat := 0
  /-- Whether tabs still count in this line. -/
  converts : Bool := true
  /-- What is printed, last character first. -/
  done : Text := []

/-- Writes one character, with blanks for a tab. -/
def expandChar (stops : TabStops) (onlyFirst : Bool) (state : ExpandState) (c : Char) :
    ExpandState :=
  if c = '\n' then { done := c :: state.done }
  else if !state.converts then { state with done := c :: state.done }
  else if c = '\t' then
    let next := (stops.next? state.column).getD (state.column + 1)
    { state with
      column := next
      done := List.replicate (next - state.column) ' ' ++ state.done }
  else
    { column := if c = '\x08' then state.column - 1 else state.column + 1
      converts := !onlyFirst || c = ' '
      done := c :: state.done }

/-- Writes blanks in place of tabs. -/
def expand (request : Request) : Effect :=
  withOptions request "it:0123456789," [("initial", 'i'), ("tabs=", 't')] fun found operands =>
    match tabStops (tabList found) with
    | .error message => refuse request message 1
    | .ok stops =>
      each request operands fun text =>
        (text.foldl (expandChar stops (has found 'i')) {}).done.reverse

/-- Where the writing of tabs for blanks stands. -/
structure UnexpandState where
  column : Nat := 0
  converts : Bool := true
  /-- The blanks that may become a tab, last one first. -/
  pending : Text := []
  /-- Whether a single blank stands before the last tab stop. -/
  isSingle : Bool := false
  afterBlank : Bool := true
  done : Text := []

/-- Writes the blanks that did not become a tab. -/
def UnexpandState.flush (state : UnexpandState) : UnexpandState :=
  let pending := match state.pending.reverse with
    | first :: second :: rest =>
      if state.isSingle then '\t' :: second :: rest else first :: second :: rest
    | pending => pending
  { state with pending := [], isSingle := false, done := pending.reverse ++ state.done }

/-- Writes one character, with a tab for the blanks that reach up to a tab stop. -/
def unexpandChar (stops : TabStops) (all : Bool) (state : UnexpandState) (c : Char) :
    UnexpandState :=
  let put := fun (state : UnexpandState) (c : Char) => { state with done := c :: state.done }
  if c = '\n' then { done := c :: state.flush.done }
  else if !state.converts then put state c
  else if c = ' ' || c = '\t' then
    match stops.next? state.column with
    | none => put { state.flush with converts := false } c
    | some next =>
      let keepsFirst := fun (state : UnexpandState) =>
        { state with pending := if state.isSingle then ['\t'] else [] }
      if c = '\t' then
        put { (keepsFirst state).flush with column := next, afterBlank := true } c
      else if state.afterBlank && state.column + 1 = next then
        put { (keepsFirst state).flush with column := next, afterBlank := true } '\t'
      else
        { state with
          column := state.column + 1
          pending := c :: state.pending
          isSingle := state.isSingle || state.column + 1 = next
          afterBlank := true }
  else
    let column := if c = '\x08' then state.column - 1 else state.column + 1
    put { state.flush with column, afterBlank := false, converts := all } c

/-- Writes tabs in place of blanks. -/
def unexpand (request : Request) : Effect :=
  withOptions request "at:0123456789,"
    [("all", 'a'), ("first-only", 'F'), ("tabs=", 't')] fun found operands =>
      match tabStops (tabList found) with
      | .error message => refuse request message 1
      | .ok stops =>
        let all := (has found 'a' || tabList found ≠ []) && !has found 'F'
        each request operands fun text =>
          (text.foldl (unexpandChar stops all) {}).flush.done.reverse

end Marginalia.Shell.Utility
