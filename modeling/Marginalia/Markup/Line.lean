import Marginalia.Text.Blank
import Marginalia.Text.Digit

/-!
# Lines of marked-up text

Text is cut into lines without tabs. What a line is by itself is decided here:
indented, a heading, an item of a list, quoted, a rule across the page, or the
underline of a heading.
-/

namespace Marginalia.Markup

/-- Lines that belong together. -/
abbrev Lines := List Text

/-- A line with each tab as spaces up to the next column that is a multiple of four. -/
def expandTabs (column : Nat) : Text → Text
  | [] => []
  | '\t' :: line =>
    let width := 4 - column % 4
    List.replicate width ' ' ++ expandTabs (column + width) line
  | c :: line => c :: expandTabs (column + 1) line

/-- A line of spaces only as an empty one. -/
def clearBlank (line : Text) : Text :=
  if line.all (· == ' ') then [] else line

/-- The lines of a text without tabs; after the first, those of spaces only are empty. -/
def linesOf (text : Text) : Lines :=
  let plain := Text.foldNewlines (text.filter fun c => c != '\x02' && c != '\x03')
  match (Text.splitOn '\n' plain).map (expandTabs 0) with
  | [] => []
  | first :: others => first :: others.map clearBlank

/-- Lines as one text. -/
def Lines.join (lines : Lines) : Text :=
  List.intercalate ['\n'] lines

/--
The blocks of lines between empty lines. Each empty line that follows another
line of its block, and is not the last of all, ends a block; one that does not
is the first line of the next block. `held` is the block so far, last line first.
-/
def blocksFrom (held : Lines) : Lines → List Lines
  | [] => [held.reverse]
  | [last] => [(last :: held).reverse]
  | line :: next :: more =>
    if line = [] && held ≠ [] then held.reverse :: blocksFrom [] (next :: more)
    else blocksFrom (line :: held) (next :: more)

/-- The blocks of lines between empty lines. -/
def Lines.blocks (lines : Lines) : List Lines :=
  blocksFrom [] lines

/-! ## Indentation -/

/-- The spaces of so many levels of indentation. -/
def indentation (level : Nat) : Text := List.replicate (4 * level) ' '

/-- The number of leading spaces of a line. -/
def leadingSpaces (line : Text) : Nat :=
  (line.takeWhile (· == ' ')).length

/-- Whether a line is indented by a level. -/
def isIndented (line : Text) : Bool :=
  Text.startsWith (indentation 1) line

/-- Lines with so many levels of indentation less; a line that has fewer stays as it is. -/
def Lines.outdent (level : Nat) (lines : Lines) : Lines :=
  lines.map fun line => (Text.dropStart? (indentation level) line).getD line

/-- A line without at most three leading spaces. -/
def dropIndent (line : Text) : Text :=
  line.drop (min 3 (leadingSpaces line))

/-! ## Headings -/

/-- Whether the backslashes at the end of a text escape what follows. -/
def endsInEscape (text : Text) : Bool :=
  (text.reverse.takeWhile (· == '\\')).length % 2 == 1

/--
The level and the text of a heading line. Number signs at the end go, unless
escaped. A line that ends in the middle of an escape is no heading.
-/
def heading? (line : Text) : Option (Nat × Text) :=
  let level := min 6 (line.takeWhile (· == '#')).length
  let text := line.drop level
  let body := Text.dropEndWhile (· == '#') text
  if level = 0 || endsInEscape text then none
  else some (level, Text.trim (if endsInEscape body then body ++ ['#'] else body))

/-- The level of the heading that a line underlines, with marks of one kind. -/
def underline? (line : Text) : Option Nat :=
  let marks := Text.dropEndWhile (· == ' ') line
  if marks = [] then none
  else if marks.all (· == '=') then some 1
  else if marks.all (· == '-') then some 2
  else none

/-! ## Rules -/

/-- Whether a text holds only a mark and, between two of them, at most two spaces. -/
def isSpaced (mark : Char) (gap : Nat) : Text → Bool
  | [] => true
  | c :: text =>
    if c = mark then isSpaced mark 0 text
    else c == ' ' && gap < 2 && isSpaced mark (gap + 1) text

/-- Whether a line is a rule: three or more dashes, underscores or asterisks. -/
def isRuleLine (line : Text) : Bool :=
  let line := Text.dropEndWhile (· == ' ') (dropIndent line)
  ['-', '_', '*'].any fun mark =>
    line.head? == some mark && isSpaced mark 0 line && 3 ≤ line.count mark

/-! ## Quotes -/

/-- What a quoted line quotes. -/
def quoted? (line : Text) : Option Text :=
  match dropIndent line with
  | '>' :: ' ' :: rest => some rest
  | '>' :: rest => some rest
  | _ => none

/-- A line of a quote; it may be quoted or not. -/
def unquote (line : Text) : Text :=
  if Text.trim line = ['>'] then [] else (quoted? line).getD line

/-! ## Items -/

/-- The two kinds of lists. -/
inductive ListKind where
  | bulleted
  | numbered
  deriving DecidableEq, Repr

/-- What follows the spaces after an item's mark; at least one space is needed. -/
def afterMark? : Text → Option Text
  | ' ' :: rest => some (rest.dropWhile (· == ' '))
  | _ => none

/-- The text after the mark of an item of a kind, which starts the line. -/
def markedItem? (kind : ListKind) (line : Text) : Option Text :=
  match kind with
  | .bulleted =>
    match line with
    | c :: rest => if c = '*' || c = '+' || c = '-' then afterMark? rest else none
    | [] => none
  | .numbered =>
    let number := line.takeWhile isDecimalDigit
    match line.drop number.length with
    | '.' :: rest => if number = [] then none else afterMark? rest
    | _ => none

/-- The text of an item of a kind. -/
def itemOf? (kind : ListKind) (line : Text) : Option Text :=
  markedItem? kind (dropIndent line)

/-- The text of an item of either kind. -/
def item? (line : Text) : Option Text :=
  (itemOf? .bulleted line).or (itemOf? .numbered line)

/-- Whether a line is an item that is indented by a level. -/
def isIndentedItem (line : Text) : Bool :=
  match Text.dropStart? (indentation 1) line with
  | some line => (item? line).isSome
  | none => false

/-- Adds a line to the items of a list, last first: a new item, or a further line of the last. -/
def addItemLine (items : List Lines) (line : Text) : List Lines :=
  match item? line, items with
  | some text, items => [text] :: items
  | none, last :: items =>
    if isIndentedItem line && !(last.head?.map isIndented).getD false then [line] :: last :: items
    else (last ++ [line]) :: items
  | none, [] => [[line]]

/-- The items of a list; indented items in a row are left together as one. -/
def itemsOf (lines : Lines) : List Lines :=
  (lines.foldl addItemLine []).reverse

end Marginalia.Markup
