import Marginalia.Text.Basic

/-!
# Patterns

The patterns that select file names and texts: a star for any text, a question
mark for any character, and sets of characters in brackets. Each character comes
with a flag that says whether it may have a meaning, so that quoted ones have none.
Sets are shared with the regular expressions of the stream editor.
-/

namespace Marginalia.Shell

/-- A set of characters: ranges, ends included, or what lies outside of them. -/
structure CharSet where
  negated : Bool := false
  ranges : List (Char × Char)
  deriving DecidableEq, Repr

namespace CharSet

/-- Whether a set holds a character. -/
def contains (set : CharSet) (c : Char) : Bool :=
  set.ranges.any (fun (low, high) => low ≤ c && c ≤ high) != set.negated

/-- The characters of a class that has a name. -/
def classRanges (name : Text) : List (Char × Char) :=
  match String.ofList name with
  | "alpha" => [('A', 'Z'), ('a', 'z')]
  | "digit" => [('0', '9')]
  | "alnum" => [('0', '9'), ('A', 'Z'), ('a', 'z')]
  | "upper" => [('A', 'Z')]
  | "lower" => [('a', 'z')]
  | "space" => [('\t', '\r'), (' ', ' ')]
  | "blank" => [('\t', '\t'), (' ', ' ')]
  | "punct" => [('!', '/'), (':', '@'), ('[', '`'), ('\x7b', '~')]
  | "print" => [(' ', '~')]
  | "graph" => [('!', '~')]
  | "cntrl" => [('\x00', '\x1f'), ('\x7f', '\x7f')]
  | "xdigit" => [('0', '9'), ('A', 'F'), ('a', 'f')]
  | _ => []

/-- The name of a class after its opening bracket and colon, and its length. -/
def className? (text : List (Char × Bool)) : Option Text :=
  let name := text.takeWhile fun (c, _) => c.isLower
  match text.drop name.length with
  | (':', _) :: (']', _) :: _ => some (name.map (·.1))
  | _ => none

/--
The ranges up to the closing bracket, and what follows it; the first `skip`
characters are done with. A bracket at the very start is a member.
-/
def members (skip : Nat) (first : Bool) :
    List (Char × Bool) → Option (List (Char × Char) × List (Char × Bool))
  | [] => none
  | (c, active) :: text =>
    match skip with
    | skip + 1 => members skip false text
    | 0 =>
      if c = ']' && active && !first then some ([], text)
      else
        match c, text with
        | '[', (':', _) :: inside =>
          match className? inside with
          | some name =>
            (members (name.length + 3) false text).map fun (ranges, rest) =>
              (classRanges name ++ ranges, rest)
          | none => (members 0 false text).map fun (ranges, rest) => ((c, c) :: ranges, rest)
        | c, ('-', true) :: (d, closing) :: _ =>
          if d = ']' && closing then
            (members 0 false text).map fun (ranges, rest) => ((c, c) :: ranges, rest)
          else (members 2 false text).map fun (ranges, rest) => ((c, d) :: ranges, rest)
        | c, _ => (members 0 false text).map fun (ranges, rest) => ((c, c) :: ranges, rest)

/-- The set after its opening bracket, and what follows it. -/
def parse? (negations : List Char) (text : List (Char × Bool)) :
    Option (CharSet × List (Char × Bool)) :=
  match text with
  | (c, true) :: inside =>
    if negations.contains c then
      (members 0 true inside).map fun (ranges, rest) => (⟨true, ranges⟩, rest)
    else (members 0 true text).map fun (ranges, rest) => (⟨false, ranges⟩, rest)
  | text => (members 0 true text).map fun (ranges, rest) => (⟨false, ranges⟩, rest)

end CharSet

/-- A piece of a pattern. -/
inductive Piece where
  | char (c : Char)
  | any
  | many
  | set (set : CharSet)
  deriving DecidableEq, Repr

/-- A pattern is a list of pieces. -/
abbrev Pattern := List Piece

namespace Pattern

/-- The pattern of marked characters, of which the first `skip` are done with. -/
def parseFrom (skip : Nat) : List (Char × Bool) → Pattern
  | [] => []
  | (c, active) :: text =>
    match skip with
    | skip + 1 => parseFrom skip text
    | 0 =>
      match active, c with
      | true, '*' => .many :: parseFrom 0 text
      | true, '?' => .any :: parseFrom 0 text
      | true, '[' =>
        match CharSet.parse? ['!'] text with
        | some (set, rest) => .set set :: parseFrom (text.length - rest.length) text
        | none => .char c :: parseFrom 0 text
      | true, '\\' =>
        match text with
        | (d, _) :: _ => .char d :: parseFrom 1 text
        | [] => [.char c]
      | _, _ => .char c :: parseFrom 0 text

/-- The pattern of marked characters. -/
def parse (text : List (Char × Bool)) : Pattern := parseFrom 0 text

/-- Whether a pattern matches more than one text. -/
def isOpen (pattern : Pattern) : Bool :=
  pattern.any fun
    | .char _ => false
    | _ => true

/-- The text and what is left of it after each of its characters. -/
def suffixes : Text → List Text
  | [] => [[]]
  | c :: text => (c :: text) :: suffixes text

/-- Whether a pattern matches a whole text. -/
def accepts : Pattern → Text → Bool
  | [], text => text = []
  | .many :: pattern, text => (suffixes text).any fun rest => accepts pattern rest
  | _ :: _, [] => false
  | .any :: pattern, _ :: text => accepts pattern text
  | .char c :: pattern, d :: text => c == d && accepts pattern text
  | .set set :: pattern, d :: text => set.contains d && accepts pattern text

/-- The text without the longest or shortest start that a pattern matches. -/
def dropStart (longest : Bool) (pattern : Pattern) (text : Text) : Text :=
  let sizes := (List.range (text.length + 1)).filter fun size => pattern.accepts (text.take size)
  match if longest then sizes.getLast? else sizes.head? with
  | some size => text.drop size
  | none => text

/-- The text without the longest or shortest end that a pattern matches. -/
def dropEnd (longest : Bool) (pattern : Pattern) (text : Text) : Text :=
  let sizes := (List.range (text.length + 1)).filter fun size => pattern.accepts (text.drop size)
  match if longest then sizes.head? else sizes.getLast? with
  | some size => text.take size
  | none => text

end Pattern
end Marginalia.Shell
