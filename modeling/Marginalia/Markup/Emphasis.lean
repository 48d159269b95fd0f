import Marginalia.Markup.Inline

/-!
# Emphasis

Emphasis stands between two runs of the same mark. A run opens emphasis if text
follows it and closes emphasis if text precedes it; a run of underscores does
neither within a word. A run that does both is unsure: it stands in the middle
of text and may be meant for either, or for neither.

A run that opens is the anchor of a walk over the text after it, which keeps the
runs of both marks that are open on one stack, the anchor at its bottom. A run
that closes is matched with open runs of its mark, and whatever was opened
between the two is text after all. The walk ends with the text, or as soon as
all marks of the anchor are used.

Of a walk only the first element is kept that ends outside of all others: the
marks and the nodes before it are text, and the text after it is read anew.
-/

namespace Marginalia.Markup

/-- The characters that mark emphasis. -/
inductive Mark where
  | asterisk
  | underscore
  deriving DecidableEq, Repr

namespace Mark

/-- The character itself. -/
def char : Mark → Char
  | asterisk => '*'
  | underscore => '_'

/-- The mark that a node is. -/
def ofInline? : Inline → Option Mark
  | .char '*' => some asterisk
  | .char '_' => some underscore
  | _ => none

/-- Whether a node is the mark. -/
def isNode (mark : Mark) (node : Inline) : Bool := ofInline? node = some mark

/-- Marks as text. -/
def nodes (mark : Mark) (count : Nat) : List Inline :=
  List.replicate count (.char mark.char)

end Mark

/-! ## Runs -/

/-- Whether a place next to marks holds text: neither white space nor an end. -/
def holdsText (place : Option Inline) : Bool :=
  !(place.map Inline.isSpace).getD true

/-- Whether a place next to marks is within a word. -/
def holdsWord (place : Option Inline) : Bool :=
  (place.map Inline.isWord).getD false

/-- A run of marks between two places. -/
structure Run where
  mark : Mark
  size : Nat
  before : Option Inline
  after : Option Inline

namespace Run

/-- Whether a run opens emphasis. -/
def opens (run : Run) : Bool :=
  holdsText run.after && (run.mark = .asterisk || !holdsWord run.before)

/-- Whether a run closes emphasis. -/
def closes (run : Run) : Bool :=
  holdsText run.before && (run.mark = .asterisk || !holdsWord run.after)

/-- Whether a run may be meant for either. -/
def isUnsure (run : Run) : Bool := run.opens && run.closes

end Run

/-- How many marks a weight takes on either side. -/
def Weight.marks : Weight → Nat
  | .emphasis => 1
  | .strong => 2

theorem Weight.marks_pos (weight : Weight) : 0 < weight.marks := by
  cases weight <;> decide

/-- The weight between runs that both have so many marks left; of three, one goes first. -/
def Weight.ofMarks (count : Nat) : Weight :=
  if count = 1 || count = 3 then .emphasis else .strong

/-- Nodes within the emphasis that so many marks on either side give, the innermost first. -/
def emphasized (count : Nat) (content : List Inline) : List Inline :=
  if count = 0 then content
  else
    let weight := Weight.ofMarks count
    emphasized (count - weight.marks) [.weighted weight content]
termination_by count
decreasing_by
  have := Weight.marks_pos (Weight.ofMarks count)
  omega

/-- A piece of text: a node, or a run of marks. -/
inductive Piece where
  | node (inner : Inline)
  | marks (mark : Mark) (count : Nat)

/-- A text with its marks gathered in runs. -/
def pieces : List Inline → List Piece
  | [] => []
  | node :: text =>
    match Mark.ofInline? node with
    | none => .node node :: pieces text
    | some mark =>
      match pieces text with
      | .marks next count :: rest =>
        if next = mark then .marks mark (count + 1) :: rest
        else .marks mark 1 :: .marks next count :: rest
      | rest => .marks mark 1 :: rest

/-- The node that a piece starts with. -/
def Piece.first : Piece → Inline
  | node inner => inner
  | marks mark _ => .char mark.char

/-! ## Open runs -/

/-- A node within an open run, and for an element that was closed there the place where it ends. -/
structure Item where
  node : Inline
  /-- How many nodes the text has up to the end of the element, from the anchor on. -/
  stop : Option Nat := none

/-- Marks as text within an open run. -/
def Mark.items (mark : Mark) (count : Nat) : List Item :=
  List.replicate count ⟨.char mark.char, none⟩

/-- A run that is open. -/
structure Opener where
  mark : Mark
  /-- How many marks it was opened with. -/
  size : Nat
  /-- How many marks the run has in the text, of which earlier emphasis may have used some. -/
  whole : Nat := size
  /-- How many marks have not closed anything yet. -/
  left : Nat := size
  /-- How many marks before those are text. -/
  text : Nat := 0
  /-- Whether the run can be meant for nothing but opening. -/
  sure : Bool
  /-- What stands after the marks, last first. -/
  items : List Item := []

namespace Opener

/-- Adds what stands after a run. -/
def push (items : List Item) (opener : Opener) : Opener :=
  { opener with items := items ++ opener.items }

/-- A run as text, with what stands after it. -/
def flat (opener : Opener) : List Item :=
  opener.items ++ opener.mark.items (opener.left + opener.text)

/--
Whether some marks of a run can close without the others: those of an unsure run
stay together, but for three, which are emphasis and strong emphasis.
-/
def isDivisible (opener : Opener) : Bool := opener.sure || opener.size = 3

/-- Whether only text stands after a run. -/
def isPlain (opener : Opener) : Bool := opener.items.all (·.stop.isNone)

/-- Makes all marks of a run text but the last ones, with which it is open. -/
def shorten (count : Nat) (opener : Opener) : Opener :=
  { opener with
    size := count
    whole := count
    left := count
    text := opener.text + (opener.left - count) }

end Opener

/-- The runs that are open in a walk, last first; the anchor stands at the end. -/
abbrev Openers := List Opener

/-- Adds what stands after the last open run. -/
def Openers.push (items : List Item) : Openers → Openers
  | [] => []
  | opener :: openers => opener.push items :: openers

/-- Whether all marks of the anchor are used. -/
def Openers.isDone : Openers → Bool
  | [] => true
  | [anchor] => anchor.left = 0
  | _ :: _ :: _ => false

/-- An open run, those after it from the first to the last, and those before it, last first. -/
structure Match where
  opener : Opener
  inner : List Opener
  outer : Openers

namespace Match

/-- The nearest open run that meets a condition. -/
def nearest? (wanted : Opener → Bool) (inner : List Opener) : Openers → Option Match
  | [] => none
  | opener :: openers =>
    if wanted opener then some ⟨opener, inner, openers⟩
    else nearest? wanted (opener :: inner) openers

/-- What stands after the marks of a run if those after it are text, last first. -/
def items (found : Match) : List Item :=
  found.inner.foldl (fun items opener => opener.flat ++ items) found.opener.items

/-- The open runs after so many marks gave emphasis that ends at a place. -/
def close (found : Match) (count stop : Nat) : Openers :=
  let element := (emphasized count (found.items.map Item.node).reverse).map (⟨·, some stop⟩)
  let opener := { found.opener with left := found.opener.left - count, items := element }
  match found.outer with
  | [] => [opener]
  | next :: outer =>
    if opener.left = 0 then next.push opener.flat :: outer
    else opener :: next :: outer

end Match

/-! ## Closing runs -/

/-- Whether an open run has the mark of a run. -/
def Run.sameMark (run : Run) (opener : Opener) : Bool := opener.mark = run.mark

/--
Whether an unsure run of a size is meant to close an open run. One mark closes no
pair of marks, and two close no single one, unless it is the rest of two or three;
of a longer run three or more are not taken away.
-/
def Opener.fits (size : Nat) (opener : Opener) : Bool :=
  if size = 1 then opener.left ≠ 2
  else if size = 2 then 2 ≤ opener.left || opener.whole = 2 || opener.whole = 3
  else opener.left ≤ size

/-- What closing comes to: the marks that are left, and the nodes after the run that go as marks. -/
structure Closing where
  left : Nat
  skipped : Nat := 0
  openers : Openers

namespace Run

/--
Whether an unsure run of one or two marks has its like below the nearest open run
of its mark. It closes the nearest one then, whatever its size.
-/
def closesOver (run : Run) (found : Match) : Bool :=
  run.isUnsure && run.size < 3 && found.opener.left ≠ run.size &&
    found.outer.any fun opener =>
      run.sameMark opener && opener.left = run.size && opener.size = run.size

/--
Closes an open run with as many marks as it has left, for which the nodes after the
run stand in if its own are too few. Of more than three marks the last two stay
inside, with what stands for them on the other side, and the others are text as well.
-/
def closeOver (run : Run) (position : Nat) (found : Match) : Closing :=
  let count := found.opener.left
  if count ≤ 3 then
    { left := run.size - count
      skipped := count - run.size
      openers := found.close count (position + count) }
  else
    let following : List Item := (run.after.toList.take (2 - run.size)).map (⟨·, none⟩)
    let items := following ++ run.mark.items run.size ++ found.items ++ run.mark.items 2
    let opener :=
      { found.opener with
        left := count - 2
        text := found.opener.text + (count - 2)
        items }
    { left := 0
      skipped := 2 - run.size
      openers := Match.close { found with opener, inner := [] } (count - 2) (position + 2) }

/--
How many marks an open run keeps that is too long for a run and not divisible. Only
the last asterisks that are open, with text after them, can be shortened.
-/
def shortened? (run : Run) (left : Nat) (found : Match) : Option Nat :=
  if run.mark = .asterisk && found.inner.isEmpty && found.opener.isPlain then
    some (if run.size < 3 && 3 < found.opener.size then 3 else left)
  else none

/--
The open run that a run closes next with the marks it has left: the nearest one of
its mark if the marks suffice or it is divisible, or else the nearest one that is
sure, unless the run is unsure itself, or else the nearest one, shortened.
-/
def chosen? (run : Run) (left : Nat) (openers : Openers) (found : Match) : Option Match :=
  if found.opener.left ≤ left || found.opener.isDivisible then some found
  else
    let sure :=
      if run.isUnsure then none
      else Match.nearest? (fun opener => run.sameMark opener && opener.sure) [] openers
    sure.or ((run.shortened? left found).map fun count =>
      { found with opener := found.opener.shorten count })

/-- Closes what a run at a place can close with the marks it has left. -/
def close (run : Run) (position left : Nat) (openers : Openers) : Closing :=
  if left = 0 || openers.isDone then { left, openers }
  else
    match Match.nearest? run.sameMark [] openers with
    | none => { left, openers }
    | some found =>
      if left = run.size && run.closesOver found then run.closeOver position found
      else if run.isUnsure && !found.opener.fits run.size then { left, openers }
      else
        match run.chosen? left openers found with
        | none => { left, openers }
        | some found =>
          let count := max 1 (min found.opener.left left)
          run.close position (left - count)
            (found.close count (position + (run.size - left) + count))
termination_by left
decreasing_by
  simp only [Bool.or_eq_true, decide_eq_true_eq] at *
  omega

/-- Adds the marks of a run that are left; they open if none of the run was used. -/
def pushLeft (run : Run) (left : Nat) (openers : Openers) : Openers :=
  if run.opens && left = run.size then
    { mark := run.mark, size := left, sure := !run.closes } :: openers
  else openers.push (run.mark.items left)

end Run

/-! ## Walks -/

/--
Walks over the pieces from a place on, of which the first one follows `before` and
`skipped` nodes go.
-/
def walk (position : Nat) (before : Option Inline) (skipped : Nat) (openers : Openers) :
    List Piece → Openers
  | [] => openers
  | .node node :: rest =>
    match skipped with
    | skipped + 1 => walk (position + 1) before skipped openers rest
    | 0 => walk (position + 1) (some node) 0 (openers.push [⟨node, none⟩]) rest
  | .marks mark count :: rest =>
    if count ≤ skipped then walk (position + count) before (skipped - count) openers rest
    else
      let run : Run := ⟨mark, count - skipped, before, rest.head?.map Piece.first⟩
      let closing :=
        if run.closes then run.close (position + skipped) run.size openers
        else { left := run.size, openers }
      if closing.openers.isDone then closing.openers
      else
        let last : Inline := if closing.left = 0 then .weighted .emphasis [] else .char mark.char
        walk (position + count) (some last) closing.skipped
          (run.pushLeft closing.left closing.openers) rest

/-- Items up to the first element that was closed, and where it ends. -/
def upToClosed? : List Item → Option (List Inline × Nat)
  | [] => none
  | ⟨node, some stop⟩ :: _ => some ([node], stop)
  | ⟨node, none⟩ :: items => (upToClosed? items).map fun (nodes, stop) => (node :: nodes, stop)

/-- The nodes that the walk from an anchor gives, and where they end, if it closes an element. -/
def walkFrom? (anchor : Opener) (text : List Inline) : Option (List Inline × Nat) :=
  let openers := walk anchor.size (some (.char anchor.mark.char)) 0 [anchor] (pieces text)
  upToClosed? (openers.flatMap Opener.flat).reverse

/--
A text with its emphasis, where nodes were passed, last first, and `before` stands
before it.
-/
def emphasizeAfter (passed : List Inline) (before : Option Inline) (text : List Inline) :
    List Inline :=
  match text with
  | [] => []
  | node :: rest =>
    match Mark.ofInline? node with
    | none => node :: emphasizeAfter (node :: passed) (some node) rest
    | some mark =>
      let size := (rest.takeWhile mark.isNode).length + 1
      let after := rest.drop (size - 1)
      let run : Run := ⟨mark, size, before, after.head?⟩
      let whole := size + (passed.takeWhile mark.isNode).length
      let anchor : Opener :=
        { mark, size, whole := if whole = 3 then 3 else size, sure := !run.closes }
      match if run.opens then walkFrom? anchor after else none with
      | none =>
        mark.nodes size ++
          emphasizeAfter (mark.nodes size ++ passed) (some (.char mark.char)) after
      | some (nodes, stop) =>
        nodes ++ emphasizeAfter (((node :: rest).take stop).reverse ++ passed)
          (some (.weighted .emphasis [])) (rest.drop (stop - 1))
termination_by text.length
decreasing_by
  all_goals
    simp only [List.length_cons, List.length_drop]
    omega

/-- A text with its emphasis. -/
def emphasize (text : List Inline) : List Inline := emphasizeAfter [] none text

/-! ## Line breaks -/

mutual

/-- A node with its line breaks settled. -/
def settleBreaksWithin : Inline → Inline
  | .weighted weight content => .weighted weight (settleBreaks content)
  | node => node

/-- After a line break, white space goes if an element or nothing follows it. -/
def settleBreaks : List Inline → List Inline
  | [] => []
  | node :: rest =>
    let rest := settleBreaks rest
    match node with
    | .lineBreak =>
      let beyond := rest.dropWhile Inline.isSpace
      .lineBreak :: if (beyond.head?.map Inline.isElement).getD true then beyond else rest
    | node => settleBreaksWithin node :: rest

end

/-- A text with its markup. -/
def inline (escapable text : Text) : List Inline :=
  settleBreaks (emphasize (inlineSpans escapable text))

/-- A text with its markup as HTML. -/
def renderInline (escapable text : Text) : Text :=
  Inline.renderAll (inline escapable text)

end Marginalia.Markup
