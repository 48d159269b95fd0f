import Marginalia.Shell.Printing
import Marginalia.Shell.Regex

/-!
# The regular expressions of rules

Extended expressions in which escapes have their meaning in sets as well, a closing
parenthesis without an opening one is an ordinary character, and nothing may stand
where a sign asks for an operand.
-/

namespace Marginalia.Shell.Rule.Pattern

/-- What is wrong with an expression. -/
inductive Fault where
  | missingOperand
  | missingClosing
  | badInterval
  | repeatedStart
  | badSet
  deriving DecidableEq, Repr

/-- A fault in words. -/
def Fault.message : Fault → Text
  | .missingOperand => "missing operand".toList
  | .missingClosing => "missing ')'".toList
  | .badInterval => "bad interval expression".toList
  | .repeatedStart => "syntax error ^* or ^+".toList
  | .badSet => "bad class -- [], [^] or [".toList

/-- What the text after a backslash stands for, and how much of it. -/
def escape (text : Text) : Char × Nat :=
  match text with
  | [] => ('\\', 0)
  | c :: _ =>
    if Printing.isOctal c then Printing.octal text
    else if c = 'e' then (c, 1)
    else ((Printing.letters.lookup c).getD c, 1)

/-- The characters of a text in brackets, of which the first `skip` are done with: each with
whether it may have a meaning, and its written length. -/
def setChars (skip : Nat) : Text → List ((Char × Bool) × Nat)
  | [] => []
  | c :: text =>
    match skip with
    | skip + 1 => setChars skip text
    | 0 =>
      if c = '\\' && text ≠ [] then
        let (meant, size) := escape text
        ((meant, false), size + 1) :: setChars size text
      else ((c, true), 1) :: setChars 0 text

/-- The set after an opening bracket, and its written length. -/
def set? (text : Text) : Option (CharSet × Nat) :=
  let chars := setChars 0 text
  (CharSet.parse? ['^'] (chars.map (·.1))).map fun (members, rest) =>
    (members, ((chars.take (chars.length - rest.length)).map (·.2)).foldl (· + ·) 0)

/-- A reading that goes on after some more of the text, unless something is wrong. -/
abbrev Step := Except Fault (Regex.Reading × Nat)

/-- Repeats the last operand. -/
def repeatLast (r : Regex.Reading) (least : Nat) (most : Option Nat) (size : Nat) : Step :=
  match r.frame.atoms with
  | [] => .error .missingOperand
  | .lineStart :: _ => .error .repeatedStart
  | _ => .ok (r.repeatLast least most, size)

/-- Takes in a character before a text. -/
def take (r : Regex.Reading) (c : Char) (text : Text) : Step :=
  let plain : Step := .ok (r.push (.char c), 0)
  match c with
  | '\\' =>
    if text = [] then plain
    else
      let (meant, size) := escape text
      .ok (r.push (.char meant), size)
  | '(' => .ok (r.enter, 0)
  | ')' =>
    if r.outer.isEmpty then plain
    else if r.frame.atoms.isEmpty then .error .missingOperand
    else .ok (r.leave, 0)
  | '|' => if r.frame.atoms.isEmpty then .error .missingOperand else .ok (r.divide, 0)
  | '*' => repeatLast r 0 none 0
  | '+' => repeatLast r 1 none 0
  | '?' => repeatLast r 0 (some 1) 0
  | '\x7b' =>
    if text.head? = some '\x7d' then .error .badInterval
    else if r.frame.atoms.isEmpty then plain
    else
      match Regex.bounds ['\x7d'] text with
      | .ok (least, most, size) => repeatLast r least most size
      | .error _ => plain
  | '.' => .ok (r.push .any, 0)
  | '^' => .ok (r.push .lineStart, 0)
  | '$' => .ok (r.push .lineEnd, 0)
  | '[' =>
    match set? text with
    | some (members, size) => .ok (r.push (.set members), size)
    | none => .error .badSet
  | _ => plain

/-- Reads an expression, of which the first `skip` characters are done with. -/
def parseFrom (r : Regex.Reading) (skip : Nat) : Text → Except Fault Regex
  | [] =>
    if !r.outer.isEmpty then .error .missingClosing
    else if r.frame.atoms.isEmpty && r.frame.alternatives.isSome then .error .missingOperand
    else .ok r.frame.close
  | c :: text =>
    match skip with
    | skip + 1 => parseFrom r skip text
    | 0 =>
      match take r c text with
      | .ok (r, size) => parseFrom r size text
      | .error fault => .error fault

/-- The expression that a text writes. -/
def parse (text : Text) : Except Fault Regex := parseFrom {} 0 text

end Marginalia.Shell.Rule.Pattern
