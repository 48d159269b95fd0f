import Marginalia.Shell.Pattern

/-!
# Regular expressions

Basic and extended regular expressions. An expression answers with the ways it can
match from a place in a line, at most one for each place where it can end, so the
number of answers stays below the length of the line. The way that counts is the
longest; of several ways to the same end it is the one that takes earlier
alternatives and more repetitions. Groups remember what they matched.
-/

namespace Marginalia.Shell

/-- A regular expression. -/
inductive Regex where
  | empty
  | char (c : Char)
  | any
  | set (set : CharSet)
  | lineStart
  | lineEnd
  /-- The start of the text or of one of its lines. -/
  | rowStart
  | rowEnd
  /-- The start (`true`) or end of a word, or both. -/
  | wordEdge (starts ends : Bool)
  /-- A place that is no edge of a word. -/
  | wordInside
  /-- A place before (`true`) or after which no character of a word stands. -/
  | wordFree (isBefore : Bool)
  | group (index : Nat) (body : Regex)
  /-- What a group matched, once more. -/
  | again (index : Nat)
  | seq (first second : Regex)
  | alt (left right : Regex)
  /-- A body repeated at least `least` times, and at most `most` times if that is given. -/
  | times (body : Regex) (least : Nat) (most : Option Nat)
  deriving Repr

/-- A place in a line: what precedes it, last character first, and what follows. -/
structure Place where
  before : Text := []
  after : Text
  deriving DecidableEq, Repr

/-- A way to match: where it ends and what the groups matched. -/
structure Match where
  place : Place
  groups : List (Nat × Text) := []
  deriving DecidableEq, Repr

namespace Regex

/-- Whether a character belongs to words. -/
def isWordChar (c : Char) : Bool := c.isAlphanum || c == '_'

/-- The place after some characters. -/
def moveBy : Nat → Place → Place
  | 0, place => place
  | n + 1, place =>
    match place.after with
    | [] => place
    | c :: after => moveBy n ⟨c :: place.before, after⟩

/-- Whether two ways to match end at the same place. -/
def sameEnd (a b : Match) : Bool := a.place.after.length == b.place.after.length

/-- The first way to each end. -/
def distinct (ways : List Match) : List Match :=
  (ways.foldl (fun done m => if done.any (sameEnd m) then done else m :: done) []).reverse

/--
The ways to repeat a step, from each of several matches: at least `least` times,
and then as often as it makes progress, at most `fuel` times.
-/
def repeated (step : Match → List Match) : (least fuel : Nat) → List Match → List Match
  | 0, 0, ways => ways
  | 0, fuel + 1, ways =>
    let further := distinct (ways.flatMap fun m =>
      (step m).filter fun next => next.place.after.length < m.place.after.length)
    if further.isEmpty then ways
    else
      let deeper := repeated step 0 fuel further
      deeper ++ ways.filter fun m => !deeper.any (sameEnd m)
  | least + 1, fuel, ways => repeated step least fuel (distinct (ways.flatMap step))

/-- Whether two characters count as the same. -/
def sameChar (anyCase : Bool) (a b : Char) : Bool :=
  a == b || (anyCase && a.toLower == b.toLower)

/-- Whether a set holds a character, in either case if that does not matter. -/
def inSet (anyCase : Bool) (set : CharSet) (c : Char) : Bool :=
  set.contains c || (anyCase && (set.contains c.toLower || set.contains c.toUpper))

/-- The place after one character that satisfies a condition. -/
def oneChar (condition : Char → Bool) (m : Match) : List Match :=
  match m.place.after with
  | [] => []
  | c :: after => if condition c then [{ m with place := ⟨c :: m.place.before, after⟩ }] else []

/-- The same match, if a condition on its place holds. -/
def onlyIf (condition : Bool) (m : Match) : List Match := if condition then [m] else []

/-- The ways in which an expression goes on from a match. -/
def ways (anyCase : Bool) : Regex → Match → List Match
  | empty, m => [m]
  | char c, m => oneChar (sameChar anyCase c) m
  | any, m => oneChar (fun _ => true) m
  | set s, m => oneChar (inSet anyCase s) m
  | lineStart, m => onlyIf m.place.before.isEmpty m
  | lineEnd, m => onlyIf m.place.after.isEmpty m
  | rowStart, m => onlyIf (m.place.before.head?.all (· == '\n')) m
  | rowEnd, m => onlyIf (m.place.after.head?.all (· == '\n')) m
  | wordEdge starts ends, m =>
    let left := m.place.before.head?.any isWordChar
    let right := m.place.after.head?.any isWordChar
    onlyIf ((starts && !left && right) || (ends && left && !right)) m
  | wordInside, m =>
    onlyIf (m.place.before.head?.any isWordChar == m.place.after.head?.any isWordChar) m
  | wordFree isBefore, m =>
    let neighbour := if isBefore then m.place.before.head? else m.place.after.head?
    onlyIf (!neighbour.any isWordChar) m
  | group index body, m =>
    (body.ways anyCase m).map fun next =>
      let size := m.place.after.length - next.place.after.length
      { next with groups := (index, m.place.after.take size) :: next.groups }
  | again index, m =>
    match m.groups.lookup index with
    | none => []
    | some text =>
      onlyIf (Text.startsWith text m.place.after) { m with place := moveBy text.length m.place }
  | seq first second, m =>
    distinct ((first.ways anyCase m).flatMap fun next => second.ways anyCase next)
  | alt left right, m => distinct (left.ways anyCase m ++ right.ways anyCase m)
  | times body least most, m =>
    let fuel := match most with
      | some most => most - least
      | none => m.place.after.length
    repeated (body.ways anyCase) least fuel [m]

/-- The longest match at a place. -/
def longest? (anyCase : Bool) (regex : Regex) (place : Place) : Option Match :=
  (regex.ways anyCase ⟨place, []⟩).foldl (fun best m =>
    match best with
    | some other => if m.place.after.length < other.place.after.length then some m else best
    | none => some m) none

/-- The first match at a place or after it, with the place where it starts. -/
def find? (anyCase : Bool) (regex : Regex) (before : Text) : Text → Option (Place × Match)
  | [] => (regex.longest? anyCase ⟨before, []⟩).map fun m => (⟨before, []⟩, m)
  | c :: after =>
    match regex.longest? anyCase ⟨before, c :: after⟩ with
    | some m => some (⟨before, c :: after⟩, m)
    | none => regex.find? anyCase (c :: before) after

/-- A group that is being read: its number, its alternatives so far, and its open sequence,
last first. -/
structure Frame where
  index : Nat := 0
  alternatives : Option Regex := none
  atoms : List Regex := []

/-- The sequence of atoms that are held last first. -/
def ofAtoms (atoms : List Regex) : Regex :=
  atoms.foldl (fun rest atom => match rest with
    | empty => atom
    | rest => seq atom rest) empty

/-- The expression that a group has become. -/
def Frame.close (frame : Frame) : Regex :=
  let last := ofAtoms frame.atoms
  match frame.alternatives with
  | none => last
  | some earlier => alt earlier last

/-- Adds an atom to the open sequence. -/
def Frame.push (frame : Frame) (atom : Regex) : Frame :=
  { frame with atoms := atom :: frame.atoms }

/-- Repeats the last atom. -/
def Frame.repeatLast (frame : Frame) (least : Nat) (most : Option Nat) : Frame :=
  match frame.atoms with
  | [] => frame
  | last :: atoms => { frame with atoms := times last least most :: atoms }

/-- What a letter after a backslash stands for in either kind of expression. -/
def classOf? (c : Char) : Option Regex :=
  let word := [('0', '9'), ('A', 'Z'), ('_', '_'), ('a', 'z')]
  let space := [('\t', '\r'), (' ', ' ')]
  match c with
  | 'w' => some (set ⟨false, word⟩)
  | 'W' => some (set ⟨true, word⟩)
  | 's' => some (set ⟨false, space⟩)
  | 'S' => some (set ⟨true, space⟩)
  | 'b' => some (wordEdge true true)
  | '<' => some (wordEdge true false)
  | '>' => some (wordEdge false true)
  | 'B' => some wordInside
  | '`' => some lineStart
  | '\'' => some lineEnd
  | _ => none

/-- Whether an atom is a place and not a text, so that it cannot be repeated. -/
def isPlace : Regex → Bool
  | lineStart | lineEnd | rowStart | rowEnd | wordEdge .. | wordInside => true
  | _ => false

/-- Whether there is nothing to repeat: no atom, or a place. -/
def Frame.isFresh (frame : Frame) : Bool := frame.atoms.head?.all isPlace

/-- What is wrong with an expression. -/
inductive Fault where
  | unmatchedOpening
  | unmatchedClosing
  | unmatchedBracket
  | unmatchedBrace
  /-- A bracket at the very end. -/
  | bareBracket
  /-- A repetition of nothing or of a repetition. -/
  | invalidPreceding
  /-- A group that is not there. -/
  | invalidReference
  | invalidRange
  | invalidClass
  | invalidCollation
  | invalidBounds
  | tooBig
  | trailingBackslash
  deriving DecidableEq, Repr

/-- A fault in words. -/
def Fault.message : Fault → Text
  | .unmatchedOpening => "Unmatched ( or \\(".toList
  | .unmatchedClosing => "Unmatched ) or \\)".toList
  | .unmatchedBracket => "Unmatched [, [^, [:, [., or [=".toList
  | .unmatchedBrace => "Unmatched \\\x7b".toList
  | .bareBracket => "Invalid regular expression".toList
  | .invalidPreceding => "Invalid preceding regular expression".toList
  | .invalidReference => "Invalid back reference".toList
  | .invalidRange => "Invalid range end".toList
  | .invalidClass => "Invalid character class name".toList
  | .invalidCollation => "Invalid collation character".toList
  | .invalidBounds => "Invalid content of \\\x7b\\\x7d".toList
  | .tooBig => "Regular expression too big".toList
  | .trailingBackslash => "Trailing backslash".toList

/-! ## Sets -/

/-- A member of a set in brackets. -/
inductive Member where
  | char (c : Char)
  | several (ranges : List (Char × Char))

/-- The ranges of a member. -/
def Member.ranges : Member → List (Char × Char)
  | .char c => [(c, c)]
  | .several ranges => ranges

/-- The text before a mark and a closing bracket, and what follows them. -/
def untilMark? (mark : Char) : Text → Option (Text × Text)
  | [] => none
  | c :: text =>
    if c = mark && text.head? = some ']' then some ([], text.tail)
    else (untilMark? mark text).map fun (before, after) => (c :: before, after)

/-- The member at the start of a text, and what follows it. -/
def member (text : Text) : Except Fault (Member × Text) :=
  let within := fun (mark : Char) (text : Text) (read : Text → Except Fault Member) =>
    match untilMark? mark text with
    | none => Except.error .unmatchedBracket
    | some (name, rest) => (read name).map fun found => (found, rest)
  let single := fun (make : Char → Member) (name : Text) =>
    match name with
    | [c] => Except.ok (make c)
    | _ => .error .invalidCollation
  match text with
  | [] => .error .unmatchedBracket
  | '[' :: '.' :: rest => within '.' rest (single .char)
  | '[' :: '=' :: rest => within '=' rest (single fun c => .several [(c, c)])
  | '[' :: ':' :: rest =>
    within ':' rest fun name =>
      match CharSet.classRanges name with
      | [] => .error .invalidClass
      | ranges => .ok (.several ranges)
  | c :: rest => .ok (.char c, rest)

/--
The ranges up to the closing bracket, and what follows it. A bracket at the very start
is a member, and so is a hyphen there or before the closing bracket.
-/
def setMembers : (fuel : Nat) → (first : Bool) → Text → Except Fault (List (Char × Char) × Text)
  | 0, _, _ | _, _, [] => .error .unmatchedBracket
  | fuel + 1, first, c :: text =>
    if c = ']' && !first then .ok ([], text)
    else if c = '-' && !first && text.head? ≠ some ']' then
      .error (if text = [] then .unmatchedBracket else .invalidRange)
    else do
      let (start, rest) ← member (c :: text)
      match rest with
      | ['-'] => .error .unmatchedBracket
      | '-' :: d :: after =>
        if d = ']' then
          let (ranges, rest) ← setMembers fuel false rest
          return (start.ranges ++ ranges, rest)
        else
          match start, ← member (d :: after) with
          | .char low, (.char high, rest) =>
            if high < low then .error .invalidRange
            else
              let (ranges, rest) ← setMembers fuel false rest
              return ((low, high) :: ranges, rest)
          | _, _ => .error .invalidRange
      | rest =>
        let (ranges, rest) ← setMembers fuel false rest
        return (start.ranges ++ ranges, rest)

/-- The set after an opening bracket, and what follows it. -/
def setAfter (text : Text) : Except Fault (CharSet × Text) :=
  let (negated, inside) := match text with
    | '^' :: inside => (true, inside)
    | inside => (false, inside)
  if inside = [] then .error .bareBracket
  else
    (setMembers (inside.length + 1) true inside).map fun (ranges, rest) => (⟨negated, ranges⟩, rest)

/-- Whether what stands in brackets looks like the name of a class between colons. -/
def looksLikeClass (inside : Text) : Bool :=
  let inside := (Text.dropStart? ['^'] inside).getD inside
  inside.head? = some ':' && inside.getLast? = some ':' && inside.any (· != ':') &&
    !inside.contains '-' && !inside.contains '['

/-! ## Repetitions -/

/-- The most that a repetition can ask for. -/
def maxBound : Nat := 32767

/-- What ends a number between braces. -/
inductive BoundEnd where
  | closing
  | comma
  | nothing
  deriving DecidableEq

/-- The number at the start of a text between braces, if it is one, and what ends it. -/
def bound (closing : Text) (text : Text) : Option (Option Nat) × BoundEnd × Text :=
  let digits := text.takeWhile Char.isDigit
  let number :=
    if digits = [] then none else some (digits.foldl (fun n c => n * 10 + (c.toNat - '0'.toNat)) 0)
  let rec skip (isFirst : Bool) : Text → Option (Option Nat) × BoundEnd × Text
    | [] => (none, .nothing, [])
    | c :: rest =>
      let found := if isFirst then some number else none
      match Text.dropStart? closing (c :: rest) with
      | some after => (found, .closing, after)
      | none => if c = ',' then (found, .comma, rest) else skip false rest
  skip true (text.drop digits.length)

/--
The numbers in the braces of a repetition and its written length. What is wrong comes with
whether there is no repetition at all.
-/
def bounds (closing : Text) (text : Text) :
    Except (Fault × Bool) (Nat × Option Nat × Nat) :=
  let finish := fun (least : Nat) (most : Option Nat) (rest : Text) =>
    if most.any (· < least) then Except.error (Fault.invalidBounds, false)
    else if maxBound < most.getD least then .error (.tooBig, false)
    else .ok (least, most, text.length - rest.length)
  match bound closing text with
  | (none, stop, _) =>
    .error (if stop = .nothing then .unmatchedBrace else .invalidBounds, true)
  | (some none, .closing, _) | (some none, .nothing, _) => .error (.invalidBounds, false)
  | (some (some n), .closing, rest) => finish n (some n) rest
  | (some (some _), .nothing, _) => .error (.unmatchedBrace, true)
  | (some least, .comma, rest) =>
    match bound closing rest with
    | (none, stop, _) | (some _, stop@.nothing, _) =>
      .error (if stop = .nothing then .unmatchedBrace else .invalidBounds, true)
    | (some most, .closing, rest) => finish (least.getD 0) most rest
    | (some _, .comma, _) => .error (.invalidBounds, false)

/-! ## Reading -/

/-- The kind of expressions that a program reads. -/
structure Dialect where
  /-- Whether signs have their meaning without a backslash. -/
  isExtended : Bool := false
  /-- Whether signs that repeat nothing, or a repetition, are let pass. -/
  isLenient : Bool := false
  /-- Whether the start and end of every line in a text count. -/
  hasRows : Bool := false

/-- An expression that was read. -/
structure Expression where
  regex : Regex
  groups : Nat := 0
  /-- The signs at the start that had nothing to repeat and were let pass. -/
  idle : List Text := []
  /-- Whether a set looks like the name of a class. -/
  isConfusing : Bool := false

/--
Where the reading of an expression stands: the group, the groups around it, the
number of groups so far, and the first thing that was wrong.
-/
structure Reading where
  frame : Frame := {}
  outer : List Frame := []
  groups : Nat := 0
  fault : Option Fault := none
  idle : List Text := []
  isConfusing : Bool := false

namespace Reading

/-- Remembers that something is wrong. -/
def blame (r : Reading) (fault : Fault) : Reading := { r with fault := r.fault.or (some fault) }

/-- Goes into a new group. -/
def enter (r : Reading) : Reading :=
  { r with
    frame := { index := r.groups + 1 }
    outer := r.frame :: r.outer
    groups := r.groups + 1 }

/-- Goes back to the group around. -/
def leave (r : Reading) : Reading :=
  match r.outer with
  | [] => r.blame .unmatchedClosing
  | around :: outer =>
    { r with frame := around.push (group r.frame.index r.frame.close), outer }

/-- Starts another alternative. -/
def divide (r : Reading) : Reading :=
  { r with frame := { index := r.frame.index, alternatives := some r.frame.close } }

/-- Adds an atom. -/
def push (r : Reading) (atom : Regex) : Reading := { r with frame := r.frame.push atom }

/-- Repeats the last atom. -/
def repeatLast (r : Reading) (least : Nat) (most : Option Nat) : Reading :=
  { r with frame := r.frame.repeatLast least most }

/-- Lets a sign pass that repeats nothing; at the start of an expression it is remembered. -/
def letPass (r : Reading) (sign : Option Text) : Reading :=
  if r.frame.atoms.all isPlace then { r with idle := r.idle ++ sign.toList } else r

/-- Whether the last atom is a repetition. -/
def hasRepeated (r : Reading) : Bool :=
  match r.frame.atoms with
  | times .. :: _ => true
  | _ => false

/-- Whether a group is there and closed. -/
def hasGroup (r : Reading) (index : Nat) : Bool :=
  index ≤ r.groups && !(r.frame :: r.outer).any (·.index == index)

/-- The whole expression, if nothing is wrong. -/
def finish (r : Reading) : Except Fault Expression :=
  match r.fault, r.outer with
  | some fault, _ => .error fault
  | none, _ :: _ => .error .unmatchedOpening
  | none, [] =>
    .ok { regex := r.frame.close, groups := r.groups, idle := r.idle, isConfusing := r.isConfusing }

/-- Takes in a sign for a repetition, if it has a meaning here. -/
def repetition? (r : Reading) (d : Dialect) (sign : Char) (least : Nat) (most : Option Nat) :
    Option Reading :=
  if r.frame.isFresh then
    if !d.isExtended then none
    else if d.isLenient then some (r.letPass (some [sign]))
    else some (r.blame .invalidPreceding)
  else if sign = '*' && r.hasRepeated && !d.isExtended && !d.isLenient then
    some (r.blame .invalidPreceding)
  else some (r.repeatLast least most)

/-- Takes in an opening brace, if it has a meaning before a text. -/
def brace? (r : Reading) (d : Dialect) (text : Text) : Option (Reading × Nat) :=
  let found := bounds (if d.isExtended then ['\x7d'] else ['\\', '\x7d']) text
  if r.frame.isFresh then
    if !d.isLenient then some (r.blame .invalidPreceding, 0)
    else if !d.isExtended then none
    else some (r.letPass (if found.isOk then some "\x7b...\x7d".toList else none), 0)
  else
    match found with
    | .ok (least, most, size) =>
      if r.hasRepeated && !d.isExtended && !d.isLenient then
        some (r.blame .invalidPreceding, size)
      else some (r.repeatLast least most, size)
    | .error (fault, isNone) =>
      if isNone && d.isExtended && d.isLenient then none else some (r.blame fault, 0)

/-- Takes in a sign that has a meaning, if it has one here. -/
def sign? (r : Reading) (d : Dialect) (c : Char) (text : Text) : Option (Reading × Nat) :=
  let alone := fun (next : Option Reading) => next.map fun r => (r, 0)
  match c with
  | '(' => some (r.enter, 0)
  | ')' => if r.outer = [] && d.isExtended && d.isLenient then none else some (r.leave, 0)
  | '|' => some (r.divide, 0)
  | '+' => alone (r.repetition? d c 1 none)
  | '?' => alone (r.repetition? d c 0 (some 1))
  | '\x7b' => r.brace? d text
  | _ => none

end Reading

/-- Takes in a sign after a backslash; the second result says how much more is done with. -/
def Reading.escaped (r : Reading) (d : Dialect) (c : Char) (text : Text) : Reading × Nat :=
  match if d.isExtended then none else r.sign? d c text with
  | some result => result
  | none =>
    if c.isDigit && c != '0' then
      let index := c.toNat - '0'.toNat
      (if r.hasGroup index then r.push (again index) else r.blame .invalidReference, 0)
    else (r.push ((classOf? c).getD (char c)), 0)

/-- Whether an end of line can stand before a text. -/
def endsHere (extended : Bool) (text : Text) : Bool :=
  extended || text = [] || text.take 2 = ['\\', ')'] || text.take 2 = ['\\', '|']

/-- Takes in a character; the second result says how much of the text after it is done with. -/
def Reading.take (r : Reading) (d : Dialect) (c : Char) (text : Text) : Reading × Nat :=
  match if d.isExtended then r.sign? d c text else none with
  | some result => result
  | none =>
    match c with
    | '\\' =>
      match text with
      | [] => (r.blame .trailingBackslash, 0)
      | e :: rest =>
        let (r, size) := r.escaped d e rest
        (r, size + 1)
    | '.' => (r.push any, 0)
    | '^' =>
      let atom := if d.hasRows then rowStart else lineStart
      (r.push (if d.isExtended || r.frame.atoms.isEmpty then atom else char c), 0)
    | '$' =>
      let atom := if d.hasRows then rowEnd else lineEnd
      (r.push (if endsHere d.isExtended text then atom else char c), 0)
    | '*' => ((r.repetition? d c 0 none).getD (r.push (char c)), 0)
    | '[' =>
      match setAfter text with
      | .ok (members, rest) =>
        let size := text.length - rest.length
        let isConfusing := r.isConfusing || looksLikeClass (text.take (size - 1))
        ({ r.push (set members) with isConfusing }, size)
      | .error fault => (r.blame fault, text.length)
    | c => (r.push (char c), 0)

/-- Reads an expression, of which the first `skip` characters are done with. -/
def parseFrom (d : Dialect) (r : Reading) (skip : Nat) : Text → Except Fault Expression
  | [] => r.finish
  | c :: text =>
    match skip with
    | skip + 1 => parseFrom d r skip text
    | 0 => parseFrom d (r.take d c text).1 (r.take d c text).2 text

/-- The expression that a text writes. -/
def parse (d : Dialect) (text : Text) : Except Fault Expression := parseFrom d {} 0 text

end Regex
end Marginalia.Shell
