import Marginalia.Markup.Extension
import Marginalia.Markup.Fence
import Marginalia.Markup.Reference
import Marginalia.Markup.Table

/-!
# Blocks of marked-up text

Text falls into blocks of lines at empty lines, and each block adds to the page:
paragraphs, headings, rules, quotes, lists, tables and code. A list holds items,
which hold blocks in turn. A block may add to what stands last on the page: code
goes on over empty lines, so do lists and quotes, and an indented block belongs
to the item before it.

Each kind of block has a `Rule`, and the first rule that applies reads the
block. A rule may leave lines over, which are read next, and reads what is
nested in its block by way of `Grow`.
-/

namespace Marginalia.Markup

/-- A block of text. -/
inductive Block where
  | paragraph (text : Text)
  | heading (level : Nat) (text : Text)
  /-- Indented code. -/
  | code (text : Text)
  /-- Code between fences, in a language if it is named. -/
  | fenced (language code : Text)
  /-- A rule across the page. -/
  | rule
  | quote (blocks : List Block)
  /-- A list, which holds items. -/
  | list (kind : ListKind) (blocks : List Block)
  /-- An item of a list. -/
  | item (blocks : List Block)
  /-- Text of an item that is no paragraph; it stands first or after another block. -/
  | bare (text : Text)
  | table (table : Table)

/-- What blocks are added to. -/
inductive Parent where
  /-- The page, or a quote. -/
  | page
  | list
  | item
  deriving DecidableEq, Repr

/-- How blocks are read. -/
inductive Mode where
  | plain
  /-- Within an item that is no paragraph. -/
  | tight
  /-- Within an item that an empty line precedes. -/
  | loose
  /-- After indentation was taken off. -/
  | outdented
  deriving DecidableEq, Repr

/-- Adds blocks of lines to the blocks that a parent has. -/
abbrev Grow := Mode → Parent → List Block → List Lines → List Block

/-- What reads one block: the parent's blocks after it, and lines that it leaves over. -/
abbrev Rule := Grow → Mode → Parent → List Block → Lines → Option (List Block × Lines)

/-! ## The last block -/

/-- The last block that is not text, with what stands before and after it. -/
def lastBlock? (blocks : List Block) : Option (List Block × Block × List Block) :=
  match blocks.getLast? with
  | none => none
  | some (.bare text) =>
    blocks.dropLast.getLast?.map fun block => (blocks.dropLast.dropLast, block, [.bare text])
  | some block => some (blocks.dropLast, block, [])

/-- Whether the last block is a list. -/
def endsInList (blocks : List Block) : Bool :=
  match lastBlock? blocks with
  | some (_, .list .., _) => true
  | _ => false

/-- Adds text to code that stands last. -/
def extendCode (blocks : List Block) (more : Text) : List Block :=
  match lastBlock? blocks with
  | some (front, .code text, back) => front ++ .code (text ++ more) :: back
  | _ => blocks

/-! ## Empty lines and code -/

/-- An empty line; code goes on after it. -/
def emptyRule : Rule := fun _ _ _ blocks lines =>
  match lines with
  | [[]] => some (extendCode blocks ['\n', '\n'], [])
  | [] :: rest => some (extendCode blocks ['\n'], if rest = [[]] then [] else rest)
  | _ => none

/-- Whether a line belongs to code that has begun: indented or blank. -/
def isCodeLine (line : Text) : Bool :=
  isIndented line || Text.isBlank line

/-- Indented lines are code; code that stands last goes on with them. -/
def codeRule : Rule := fun _ _ _ blocks lines =>
  if (lines.head?.map isIndented).getD false then
    let code := (lines.takeWhile isCodeLine).map fun line =>
      (Text.dropStart? (indentation 1) line).getD []
    let text := Text.trimEnd (Lines.join code) ++ ['\n']
    let blocks :=
      match lastBlock? blocks with
      | some (_, .code _, _) => extendCode blocks ('\n' :: text)
      | _ => blocks ++ [.code text]
    some (blocks, lines.dropWhile isCodeLine)
  else none

/-! ## Tables, headings and rules -/

/-- A table, if tables are on. -/
def tableRule (features : Features) : Rule := fun _ _ _ blocks lines =>
  if features.tables then (table? lines).map fun table => (blocks ++ [.table table], [])
  else none

/-- Lines around the first one for which `f` has an answer. -/
def around? (f : Text → Option α) : Lines → Option (Lines × α × Lines)
  | [] => none
  | line :: lines =>
    match f line with
    | some found => some ([], found, lines)
    | none => (around? f lines).map fun (front, found, back) => (line :: front, found, back)

/-- Reads lines that stand before what a rule looks for. -/
def growBefore (grow : Grow) (mode : Mode) (parent : Parent) (blocks : List Block)
    (front : Lines) : List Block :=
  if front = [] then blocks else grow mode parent blocks [front]

/-- A heading on any line of the block. -/
def headingRule : Rule := fun grow mode parent blocks lines =>
  (around? heading? lines).map fun (front, (level, text), back) =>
    (growBefore grow mode parent blocks front ++ [.heading level text],
      if back = [[]] then [] else if mode = .loose then back.outdent 1 else back)

/-- A first line that the second one underlines is a heading. -/
def underlineRule : Rule := fun _ _ _ blocks lines =>
  match lines with
  | first :: second :: back =>
    (underline? second).map fun level => (blocks ++ [.heading level (Text.trim first)], back)
  | _ => none

/-- A rule across the page on any line of the block. -/
def ruleRule : Rule := fun grow mode parent blocks lines =>
  (around? (fun line => if isRuleLine line then some () else none) lines).map
    fun (front, (), back) =>
      (growBefore grow mode parent blocks front ++ [.rule], back.dropWhile (· = []))

/-! ## Lists -/

/-- Makes a paragraph of the text that stands first in an item. -/
def loosenText : List Block → List Block
  | .bare text :: blocks => .paragraph text :: blocks
  | blocks => blocks

/-- Makes paragraphs of the text that stands first and last in an item. -/
def loosen (blocks : List Block) : List Block :=
  match (loosenText blocks).getLast? with
  | some (.bare text) => (loosenText blocks).dropLast ++ [.paragraph (Text.trimStart text)]
  | _ => loosenText blocks

/-- Changes the blocks of the item that stands last. -/
def mapLastItem (f : List Block → List Block) (blocks : List Block) : List Block :=
  match blocks.getLast? with
  | some (.item inner) => blocks.dropLast ++ [.item (f inner)]
  | _ => blocks

/-- Adds an item to a list; an indented one belongs to the item that stands last. -/
def addItem (grow : Grow) (blocks : List Block) (item : Lines) : List Block :=
  if (item.head?.map isIndented).getD false then
    mapLastItem (fun inner => grow .tight .item inner [item]) blocks
  else blocks ++ [.item (grow .tight .item [] [item])]

/-- Goes on with a list after an empty line, which makes paragraphs of the items around it. -/
def goOn (grow : Grow) (blocks : List Block) : List Lines → List Block
  | [] => blocks
  | first :: items =>
    items.foldl (addItem grow) (mapLastItem loosen blocks ++ [.item (grow .loose .item [] [first])])

/-- A list, by the mark of its first line. A list of either kind that stands last goes on. -/
def listRule (kind : ListKind) : Rule := fun grow _ parent blocks lines =>
  if ((lines.head?.bind (itemOf? kind)).isSome) then
    let items := itemsOf lines
    some (match lastBlock? blocks with
      | some (front, .list other inner, back) =>
        front ++ .list other (goOn grow inner items) :: back
      | _ =>
        if parent = .list then items.foldl (addItem grow) blocks
        else blocks ++ [.list kind (items.foldl (addItem grow) [])], [])
  else none

/-! ## Indented blocks of a list -/

/--
The level that an indented block has: at most as deep as lists are nested in
what stands last. `steps` bounds the way down.
-/
def levelIn (wanted : Nat) (level : Nat) (blocks : List Block) : (steps : Nat) → Nat
  | 0 => level
  | steps + 1 =>
    if wanted ≤ level then level
    else
      match lastBlock? blocks with
      | some (_, .list _ inner, _) => levelIn wanted (level + 1) inner steps
      | some (_, .item inner, _) => levelIn wanted level inner steps
      | _ => level

/-- Changes the list or item that stands last and has a level, by way of those around it. -/
def mapAtLevel (f : Parent → List Block → List Block) (wanted level : Nat) (parent : Parent)
    (blocks : List Block) : (steps : Nat) → List Block
  | 0 => f parent blocks
  | steps + 1 =>
    if wanted ≤ level then f parent blocks
    else
      match lastBlock? blocks with
      | some (front, .list kind inner, back) =>
        front ++ .list kind (mapAtLevel f wanted (level + 1) .list inner steps) :: back
      | some (front, .item inner, back) =>
        front ++ .item (mapAtLevel f wanted level .item inner steps) :: back
      | _ => f parent blocks

/-- Adds an indented block, without its indentation, to a list or an item. -/
def addOutdented (grow : Grow) (lines : Lines) (parent : Parent) (blocks : List Block) :
    List Block :=
  match parent, blocks.getLast? with
  | .list, some (.item _) =>
    mapLastItem (fun inner => grow .outdented .item (loosenText inner) lines.blocks) blocks
  | .list, _ => blocks ++ [.item (grow .outdented .item [] [lines])]
  | _, _ => grow .outdented parent blocks [lines]

/-- An indented block within an item or after a list. -/
def indentRule : Rule := fun grow mode parent blocks lines =>
  let first := lines.head?.getD []
  if isIndented first && mode != .outdented && (parent == .item || endsInList blocks) then
    let wanted := leadingSpaces first / 4
    let steps := 2 * wanted + 1
    let start := if mode = .tight then 1 else 0
    let lines := lines.outdent (levelIn wanted start blocks steps)
    some (if parent = .item then
        match lastBlock? blocks with
        | some (front, .list kind inner, back) =>
          front ++ .list kind (grow .outdented .list inner [lines]) :: back
        | _ => grow .outdented .item blocks [lines]
      else mapAtLevel (addOutdented grow lines) wanted start parent blocks steps, [])
  else none

/-! ## Quotes and paragraphs -/

/-- A quote from the first quoted line on; a quote that stands last goes on. -/
def quoteRule : Rule := fun grow mode parent blocks lines =>
  (around? quoted? lines).map fun (front, first, back) =>
    let blocks := growBefore grow mode parent blocks front
    let quote : Lines := (if front = [] then [] else [[]]) ++
      (if Text.isBlank first then [] else first) :: back.map unquote
    (match lastBlock? blocks with
      | some (front, .quote inner, back) =>
        front ++ .quote (grow .plain .page inner quote.blocks) :: back
      | _ => blocks ++ [.quote (grow .plain .page [] quote.blocks)], [])

/-- Adds text to an item: to the text that it starts with, or after its last block. -/
def addText (text : Text) (blocks : List Block) : List Block :=
  match blocks with
  | [] => [.bare (Text.trimStart text)]
  | [.bare first] => [.bare (first ++ '\n' :: Text.trimStart text)]
  | _ =>
    match blocks.getLast? with
    | some (.bare last) => blocks.dropLast ++ [.bare (last ++ '\n' :: text)]
    | _ => blocks ++ [.bare ('\n' :: text)]

/-- Whatever is nothing else is a paragraph, or text of a tight item; white space is nothing. -/
def paragraphRule : Rule := fun _ mode _ blocks lines =>
  let text := Lines.join lines
  some (if Text.isBlank text then blocks
    else if mode = .tight then addText text blocks
    else blocks ++ [.paragraph (Text.trimStart text)], [])

/-! ## Reading -/

/-- The rules in the order in which they are tried. -/
def rules (features : Features) : List Rule :=
  [emptyRule, indentRule, codeRule, tableRule features, headingRule, underlineRule, ruleRule,
    listRule .numbered, listRule .bulleted, quoteRule, paragraphRule]

/--
Adds blocks of lines one after the other. A block that is read leaves fewer
characters or lines over and nested, except that indentation may be taken off
at level zero, after which it is not again. So `fuel` twice their number is
enough.
-/
def grow (features : Features) : (fuel : Nat) → Grow
  | 0, _, _, blocks, _ => blocks
  | fuel + 1, mode, parent, blocks, pending =>
    match pending with
    | [] => blocks
    | lines :: pending =>
      match (rules features).findSome? fun rule =>
        rule (grow features fuel) mode parent blocks lines with
      | none => grow features fuel mode parent blocks pending
      | some (blocks, []) => grow features fuel mode parent blocks pending
      | some (blocks, rest) => grow features fuel mode parent blocks (rest :: pending)

/-- Adds a stretch of text to a page. -/
def addStretch (features : Features) (blocks : List Block) : Stretch → List Block
  | .fenced language code => blocks ++ [.fenced language code]
  | .lines lines =>
    let lines : Lines := lines ++ [[], []]
    grow features (2 * (lines.join.length + lines.length) + 2) .plain .page blocks lines.blocks

/-- The blocks of a text. -/
def blocksOf (features : Features) (text : Text) : List Block :=
  let stretches := (linesOf text).stretches features.fences
  let texts := completeReferences (stretches.map Stretch.text)
  (stretches.zipWith Stretch.withText texts).foldl (addStretch features) []

end Marginalia.Markup
