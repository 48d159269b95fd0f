import Marginalia.Html
import Marginalia.Text.Blank
import Marginalia.Text.Word

/-!
# Markup within a line of text

Text is marked up in passes, each over what the passes before it left as plain
characters: code spans, escaped characters, line breaks, and then emphasis. A
pass replaces spans of characters by finished nodes, which later passes see as
opaque. This module holds the nodes, their HTML, and the passes before emphasis.
-/

namespace Marginalia.Markup

/-- How emphasis is marked in HTML. -/
inductive Weight where
  | emphasis
  | strong
  deriving DecidableEq, Repr

/-- A character or a finished node of marked-up text. -/
inductive Inline where
  | char (c : Char)
  /-- Characters that no later pass gives a meaning. -/
  | literal (text : Text)
  | code (text : Text)
  | lineBreak
  | weighted (weight : Weight) (content : List Inline)

namespace Inline

/-- The characters of a node; an element has none, and a blank stands in for it. -/
def chars : Inline → Text
  | char c => [c]
  | literal text => text
  | code _ | lineBreak | weighted .. => [' ']

/-- Whether a node is an element, and not a part of the text around it. -/
def isElement : Inline → Bool
  | char _ | literal _ => false
  | code _ | lineBreak | weighted .. => true

/-- Whether a node is a certain character. -/
def isChar (wanted : Char) : Inline → Bool
  | char c => c == wanted
  | _ => false

/-- Whether a node is a character of a word. -/
def isWord : Inline → Bool
  | char c => isWordChar c
  | _ => false

/-- Whether a node is white space. -/
def isSpace : Inline → Bool
  | char c => isBlank c
  | _ => false

/-- The one character that a node is in its text. -/
def single? : Inline → Option Char
  | char c => some c
  | literal [c] => some c
  | _ => none

/-- Whether characters of a class come next, at least one unless `found`, and a semicolon. -/
def entityEnds (p : Char → Bool) (found : Bool) : List Inline → Bool
  | [] => false
  | node :: rest =>
    match node.single? with
    | some c => if p c then entityEnds p true rest else found && c == ';'
    | none => false

/-- Whether an entity, up to its semicolon, comes next in the text. -/
def startsEntity (text : List Inline) : Bool :=
  let isHex := fun c : Char => c.isDigit || ('a' ≤ c.toLower && c.toLower ≤ 'f')
  match (text.take 2).map single? with
  | [some '#', some 'x'] | [some '#', some 'X'] => entityEnds isHex false (text.drop 2)
  | some '#' :: _ => entityEnds Char.isDigit false (text.drop 1)
  | _ => entityEnds Char.isAlphanum false text

/-- The HTML tag of a weight. -/
def tag : Weight → Text
  | .emphasis => "em".toList
  | .strong => "strong".toList

/-- One character as HTML text. -/
def renderChar (c : Char) : Text := Html.escapeChar .kept c

mutual

/-- One node as HTML; `rest` is the text after it, which may complete an entity. -/
def render (node : Inline) (rest : List Inline) : Text :=
  match node with
  | char c => if c = '&' && startsEntity rest then ['&'] else renderChar c
  | literal text => text.flatMap renderChar
  | code text => "<code>".toList ++ Html.escape .kept text ++ "</code>".toList
  | lineBreak => "<br />\n".toList
  | weighted weight content =>
    '<' :: tag weight ++ '>' :: renderAll content ++ '<' :: '/' :: tag weight ++ ['>']

/-- Marked-up text as HTML. -/
def renderAll : List Inline → Text
  | [] => []
  | node :: rest => node.render rest ++ renderAll rest

end

end Inline

/-! ## Passes -/

/-- Nodes and how many nodes they take the place of. -/
abbrev Found := List Inline × Nat

/-- What finds a span at the start of a text, given the node before it. -/
abbrev Finder := Option Inline → List Inline → Option Found

/--
Replaces spans from left to right. `find` is asked at each node that is not in a
span already, with the node before it; the nodes of a span found there go.
-/
def replaceSpans (find : Finder) (before : Option Inline) (skip : Nat) :
    List Inline → List Inline
  | [] => []
  | node :: rest =>
    match skip with
    | skip + 1 => replaceSpans find before skip rest
    | 0 =>
      match find before (node :: rest) with
      | some (found, size) => found ++ replaceSpans find found.getLast? (size - 1) rest
      | none => node :: replaceSpans find (some node) 0 rest

/-- One pass over a whole text. -/
def pass (find : Finder) (text : List Inline) : List Inline :=
  replaceSpans find none 0 text

/-- What follows `count` times a character. -/
def dropRun? (c : Char) : Nat → List Inline → Option (List Inline)
  | 0, text => some text
  | count + 1, node :: text => if node.isChar c then dropRun? c count text else none
  | _ + 1, [] => none

/-- Whether a text starts with a character. -/
def startsWithChar (c : Char) (text : List Inline) : Bool :=
  (text.head?.map (Inline.isChar c)).getD false

/-! ## Code spans -/

/--
The shortest content, at least one node and no backtick at its end, after which
`count` backticks come, and what follows these; if they are to be `alone`, no
other backtick.
-/
def untilTicks? (alone : Bool) (count : Nat) : List Inline → Option (List Inline × List Inline)
  | [] => none
  | node :: rest =>
    let after? := (if node.isChar '`' then none else dropRun? '`' count rest).filter fun after =>
      !(alone && startsWithChar '`' after)
    match after? with
    | some after => some ([node], after)
    | none => (untilTicks? alone count rest).map fun (content, after) => (node :: content, after)

/--
The code span that the longest possible run of at most so many backticks opens:
the longest that begin a run later on. It reaches up to so many backticks alone.
If there are none there is no span, and as many nodes after the opening backticks
as there are of these stay as they are.
-/
def spanOfTicks? (text : List Inline) : Nat → Option Found
  | 0 => none
  | count + 1 =>
    let size := count + 1
    let inner? := dropRun? '`' size text
    if (inner?.bind (untilTicks? false size)).isNone then spanOfTicks? text count
    else
      match inner?.bind (untilTicks? true size) with
      | none => some (text.take (2 * size), 2 * size)
      | some (content, _) =>
        some ([.code (Text.trim (content.flatMap Inline.chars))], content.length + 2 * size)

/-- The code span that backticks open; without one they stay as they are. -/
def codeSpan? (text : List Inline) : Option Found :=
  let count := (text.takeWhile (Inline.isChar '`')).length
  if count = 0 then none else some ((spanOfTicks? text count).getD (text.take count, count))

/-- Backslashes in pairs before a backtick: each pair is one backslash. -/
def backslashPairs? (text : List Inline) : Option Found :=
  let count := (text.takeWhile (Inline.isChar '\\')).length
  if count ≠ 0 && count % 2 = 0 && startsWithChar '`' (text.drop count)
  then some ([.literal (List.replicate (count / 2) '\\')], count)
  else none

/-- A code span, or backslashes that do not escape one, unless a backslash stands before it. -/
def findCode : Finder := fun before text =>
  if (before.map (Inline.isChar '\\')).getD false then none
  else (backslashPairs? text).or (codeSpan? text)

/-! ## Escapes and line breaks -/

/-- An escaped character. -/
def findEscape (escapable : Text) : Finder := fun _ text =>
  match text with
  | .char '\\' :: .char c :: _ => if escapable.contains c then some ([.literal [c]], 2) else none
  | _ => none

/-- Two spaces at the end of a line. -/
def findLineBreak : Finder := fun _ text =>
  match text with
  | .char ' ' :: .char ' ' :: .char '\n' :: _ => some ([.lineBreak], 3)
  | _ => none

/-- A text after the passes for code spans, escapes and line breaks. -/
def inlineSpans (escapable text : Text) : List Inline :=
  pass findLineBreak (pass (findEscape escapable) (pass findCode (text.map .char)))

end Marginalia.Markup
