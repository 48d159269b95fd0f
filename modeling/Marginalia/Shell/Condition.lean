import Marginalia.Disk.Basic
import Marginalia.Shell.Arithmetic
import Marginalia.Shell.Machine

/-!
# Conditions

The conditions that scripts test: properties of texts and files, comparisons, and
what is built from them. Whether an argument is an operator depends on the
arguments after it, so positions in the whole list are kept. The functions pass
fuel on, because parentheses nest; each call for a nested one moves on in the list.
-/

namespace Marginalia.Shell.Condition

/-- What an argument is in a condition. -/
inductive Token where
  | finish
  | operand
  | unary
  | binary
  | not
  | both
  | either
  | opening
  | closing
  deriving DecidableEq, Repr

/-- The operator that a text is. -/
def operator? (text : Text) : Option Token :=
  match String.ofList text with
  | "!" => some .not
  | "(" => some .opening
  | ")" => some .closing
  | "-a" => some .both
  | "-o" => some .either
  | "=" | "!=" | "<" | ">" | "-eq" | "-ne" | "-gt" | "-ge" | "-lt" | "-le" | "-nt" | "-ot"
  | "-ef" =>
    some .binary
  | "-b" | "-c" | "-d" | "-e" | "-f" | "-g" | "-h" | "-k" | "-n" | "-p" | "-r" | "-s" | "-t" | "-u"
  | "-w" | "-x" | "-z" | "-G" | "-L" | "-O" | "-S" => some .unary
  | _ => none

/-- Whether an operator on one text is only a text here, because of what follows it. -/
def isOperand (following : List Text) : Bool :=
  match following with
  | [] => true
  | [_] => false
  | next :: _ => operator? next == some .binary

/-- What the argument at a position is. -/
def tokenAt (arguments : List Text) (position : Nat) : Token :=
  match arguments.drop position with
  | [] => .finish
  | text :: following =>
    match operator? text with
    | none => .operand
    | some .unary => if isOperand following then .operand else .unary
    | some .opening => if following = [] then .operand else .opening
    | some token => token

/-- What a condition is tested against. -/
structure Setting where
  disk : Disk
  arguments : List Text

/-- The result of a condition and the position of its last argument, or what is wrong with it. -/
abbrev Result := Except Text (Bool × Nat)

/-- The argument at a position. -/
def Setting.at (setting : Setting) (position : Nat) : Text :=
  (setting.arguments[position]?).getD []

/-- A number that an argument writes. -/
def number (text : Text) : Except Text Int :=
  match Arithmetic.integer? text with
  | some n => .ok n
  | none => .error ("Illegal number: ".toList ++ text)

/-- Whether a file has a property. -/
def fileTest (disk : Disk) (operator path : Text) : Bool :=
  let path := decodeText path
  let follow := operator ≠ "-h".toList && operator ≠ "-L".toList
  match disk.walk follow Disk.maxLinks (disk.start path) (Disk.steps path), path with
  | _, [] => false
  | .ok (.present _ node), _ =>
    match String.ofList operator, node with
    | "-d", node | "-x", node => node = .directory
    | "-f", .file _ => true
    | "-s", .file content => !content.isEmpty
    | "-s", .directory => true
    | "-h", .link _ | "-L", .link _ => true
    | "-e", _ | "-r", _ | "-w", _ | "-O", _ | "-G", _ => true
    | _, _ => false
  | _, _ => path = "/dev/null".toList && (operator = "-e".toList || operator = "-c".toList ||
      operator = "-r".toList || operator = "-w".toList)

/-- Whether an operator holds of one text. -/
def unaryTest (disk : Disk) (operator text : Text) : Bool :=
  match String.ofList operator with
  | "-z" => text.isEmpty
  | "-n" => !text.isEmpty
  | "-t" => false
  | _ => fileTest disk operator text

/-- Whether an operator holds of two texts. -/
def binaryTest (operator left right : Text) : Except Text Bool :=
  let compare := fun (holds : Int → Int → Bool) => do
    return holds (← number left) (← number right)
  match String.ofList operator with
  | "=" => .ok (left == right)
  | "!=" => .ok (left != right)
  | "<" => .ok (Text.isLe left right && left != right)
  | ">" => .ok (Text.isLe right left && left != right)
  | "-eq" => compare fun a b => a == b
  | "-ne" => compare fun a b => a != b
  | "-gt" => compare fun a b => decide (b < a)
  | "-ge" => compare fun a b => decide (b ≤ a)
  | "-lt" => compare fun a b => decide (a < b)
  | "-le" => compare fun a b => decide (a ≤ b)
  | _ => .ok false

mutual

/-- Tests a condition without connectives, whose first argument is read as `token`. -/
def primary (setting : Setting) : Nat → Token → Nat → Result
  | 0, _, position => .ok (false, position)
  | fuel + 1, token, position =>
    match token with
    | .finish => .ok (false, position)
    | .opening => do
      let inside := tokenAt setting.arguments (position + 1)
      if inside = .closing then return (false, position + 1)
      let (holds, position) ← disjunction setting fuel inside (position + 1)
      if tokenAt setting.arguments (position + 1) = .closing then return (holds, position + 1)
      else .error "closing paren expected".toList
    | .unary =>
      if position + 1 < setting.arguments.length then
        .ok (unaryTest setting.disk (setting.at position) (setting.at (position + 1)), position + 1)
      else .error (setting.at position ++ ": argument expected".toList)
    | _ =>
      if tokenAt setting.arguments (position + 1) = .binary then
        if position + 2 < setting.arguments.length then do
          let holds ← binaryTest (setting.at (position + 1)) (setting.at position)
            (setting.at (position + 2))
          return (holds, position + 2)
        else .error (setting.at (position + 1) ++ ": argument expected".toList)
      else .ok (!(setting.at position).isEmpty, position)

/-- Tests a condition that may be negated. -/
def negation (setting : Setting) : Nat → Token → Nat → Result
  | 0, _, position => .ok (false, position)
  | fuel + 1, token, position =>
    if token = .not then do
      let next := tokenAt setting.arguments (position + 1)
      let position := if next = .finish then position else position + 1
      let (holds, position) ← negation setting fuel next position
      return (!holds, position)
    else primary setting fuel token position

/-- Tests conditions that have to hold together. -/
def conjunction (setting : Setting) : Nat → Token → Nat → Result
  | 0, _, position => .ok (false, position)
  | fuel + 1, token, position => do
    let (holds, position) ← negation setting fuel token position
    if tokenAt setting.arguments (position + 1) = .both then
      let (others, position) ←
        conjunction setting fuel (tokenAt setting.arguments (position + 2)) (position + 2)
      return (holds && others, position)
    else return (holds, position)

/-- Tests conditions of which one has to hold. -/
def disjunction (setting : Setting) : Nat → Token → Nat → Result
  | 0, _, position => .ok (false, position)
  | fuel + 1, token, position => do
    let (holds, position) ← conjunction setting fuel token position
    if tokenAt setting.arguments (position + 1) = .either then
      let (others, position) ←
        disjunction setting fuel (tokenAt setting.arguments (position + 2)) (position + 2)
      return (holds || others, position)
    else return (holds, position)

end

/-- Tests a whole condition, whose first argument is read as `token`. -/
def whole (setting : Setting) (token : Token) : Except Text Bool := do
  let (holds, position) ← disjunction setting (6 * setting.arguments.length + 6) token 0
  if position + 1 < setting.arguments.length then
    .error (setting.at position ++ ": unexpected operator".toList)
  else return holds

/--
Tests the condition that arguments write. No argument never holds. With three
arguments an operator in the middle decides; with three or four, parentheses around
the others or a negation before them do.
-/
def test (disk : Disk) : List Text → Except Text Bool
  | [] => .ok false
  | arguments@(first :: rest) =>
    let isBinary := arguments.length = 3 && (rest.head?.bind operator?) = some .binary
    let isShort := arguments.length = 3 || arguments.length = 4
    if isBinary then whole ⟨disk, arguments⟩ .operand
    else if isShort && first = ['('] && rest.getLast? = some [')'] then
      whole ⟨disk, rest.dropLast⟩ (tokenAt rest.dropLast 0)
    else if isShort && first = ['!'] then (test disk rest).map not
    else whole ⟨disk, arguments⟩ (tokenAt arguments 0)

end Marginalia.Shell.Condition
