import Marginalia.Markup.Line

/-!
# Tables

A table is a header, a separating row with as many cells, and rows. Bars divide
the cells, except within code and after a backslash; the rows may have bars
around them.
-/

namespace Marginalia.Markup

/-- Where the cells of a table column stand. -/
inductive Alignment where
  | none
  | left
  | center
  | right
  deriving DecidableEq, Repr

/-- A table. -/
structure Table where
  alignments : List Alignment
  header : List Text
  rows : List (List Text)
  deriving DecidableEq, Repr

/-- A line without spaces at either end. -/
def trimSpaces (line : Text) : Text :=
  Text.dropEndWhile (· == ' ') (line.dropWhile (· == ' '))

/-! ## Rows -/

/-- A part of a row: characters, a run of backticks, possibly escaped, or a bar. -/
inductive RowPart where
  | chars (text : Text)
  | ticks (escaped : Bool) (count : Nat)
  | bar
  deriving DecidableEq, Repr

/-- The text of a part. -/
def RowPart.text : RowPart → Text
  | chars text => text
  | ticks escaped count => (if escaped then ['\\'] else []) ++ List.replicate count '`'
  | bar => ['|']

/-- Puts a backtick in front of parts. -/
def RowPart.consTick : List RowPart → List RowPart
  | .ticks false count :: parts => .ticks false (count + 1) :: parts
  | parts => .ticks false 1 :: parts

/-- The parts of a row; a backslash keeps a second one and a bar from having a meaning. -/
def rowParts : Text → List RowPart
  | [] => []
  | ['\\'] => [.chars ['\\']]
  | '\\' :: c :: row =>
    if c = '\\' || c = '|' then .chars ['\\', c] :: rowParts row
    else
      match rowParts (c :: row) with
      | .ticks false count :: parts => .ticks true count :: parts
      | parts => .chars ['\\'] :: parts
  | c :: row =>
    if c = '`' then RowPart.consTick (rowParts row)
    else if c = '|' then .bar :: rowParts row
    else .chars [c] :: rowParts row

/-- The number of parts up to the next run of so many backticks, that run included. -/
def closingTicks? (count : Nat) : List RowPart → Option Nat
  | [] => none
  | .ticks _ found :: parts =>
    if found = count then some 1 else (closingTicks? count parts).map (· + 1)
  | _ :: parts => (closingTicks? count parts).map (· + 1)

/-- Puts text in front of the first cell. -/
def consText (text : Text) : List Text → List Text
  | [] => [text]
  | cell :: cells => (text ++ cell) :: cells

/--
The cells between the bars of a row. A run of backticks and the next one of the
same size have no bars between them; of an escaped run the first backtick does
not count.
-/
def cellsOf (parts : List RowPart) : List Text :=
  match parts with
  | [] => [[]]
  | .bar :: rest => [] :: cellsOf rest
  | .chars text :: rest => consText text (cellsOf rest)
  | .ticks escaped count :: rest =>
    let size := if escaped then count - 1 else count
    let inside := if size = 0 then 0 else (closingTicks? size rest).getD 0
    consText ((RowPart.ticks escaped count :: rest.take inside).flatMap RowPart.text)
      (cellsOf (rest.drop inside))
termination_by parts.length
decreasing_by all_goals simp only [List.length_cons, List.length_drop]; omega

/-- Whether a row ends in a bar that no backslash keeps from being one. -/
def endsInBar (row : Text) : Bool :=
  match row.reverse with
  | '|' :: rest => (rest.takeWhile (· == '\\')).length % 2 == 0
  | _ => false

/-- A row without the bar at its end, and the backslashes before that. -/
def dropEndBar (row : Text) : Text :=
  if endsInBar row then Text.dropEndWhile (· == '\\') row.dropLast else row

/-- The cells of a row of a table, whose rows may have bars around them. -/
def rowCells (bordered : Bool) (row : Text) : List Text :=
  cellsOf (rowParts
    (if bordered then dropEndBar ((Text.dropStart? ['|'] row).getD row) else row))

/-! ## Tables -/

/-- Whether rows have bars around them, by the first one. -/
def isBordered (header : Text) : Bool :=
  header.head? == some '|' || endsInBar header

/-- How the cells below a separating cell stand. -/
def alignmentOf (cell : Text) : Alignment :=
  let cell := trimSpaces cell
  match cell.head? == some ':', cell.getLast? == some ':' with
  | true, true => .center
  | true, false => .left
  | false, true => .right
  | false, false => .none

/-- The table that lines are. A single column needs a bar in every row. -/
def table? (lines : Lines) : Option Table :=
  match lines.map trimSpaces with
  | header :: separator :: rows =>
    let bordered := isBordered header
    let headerCells := rowCells bordered header
    let marks := rowCells bordered separator
    let single := bordered &&
      (separator :: rows).all fun row => row.head? == some '|' || endsInBar row
    if (headerCells.length > 1 || single) && marks.length == headerCells.length &&
      marks.all (·.all fun c => c == '|' || c == ':' || c == '-' || c == ' ')
    then some ⟨marks.map alignmentOf, headerCells, rows.map (rowCells bordered)⟩
    else none
  | _ => none

end Marginalia.Markup
