import Marginalia.Shell.Regex
import Marginalia.Shell.Request

/-!
# Calculation

Expressions whose words are the arguments of a program. A value is a text, and counts
as a number if it is written like one. The operators stand in levels, the weakest
first; all of them group to the left.
-/

namespace Marginalia.Shell.Calculation

/-- Why an expression has no value. -/
inductive Fault where
  | unexpected (word : Text)
  /-- A closing parenthesis where a value should be. -/
  | closing
  | missingAfter (word : Text)
  | unclosed (word : Text)
  | noNumber
  | divisionByZero
  | regex (fault : Regex.Fault)
  deriving DecidableEq, Repr

/-- A fault in words. -/
def Fault.message : Fault → Text
  | .closing => "syntax error: unexpected ')'".toList
  | .unexpected word => "syntax error: unexpected argument '".toList ++ word ++ ['\'']
  | .missingAfter word => "syntax error: missing argument after '".toList ++ word ++ ['\'']
  | .unclosed word => "syntax error: expecting ')' after '".toList ++ word ++ ['\'']
  | .noNumber => "non-integer argument".toList
  | .divisionByZero => "division by zero".toList
  | .regex fault => fault.message

/-- The number that a text writes. -/
def integer? (text : Text) : Option Int :=
  match text with
  | '-' :: digits =>
    if digits ≠ [] && digits.all Char.isDigit then some (-Int.ofNat (ofDigits digits)) else none
  | digits =>
    if digits ≠ [] && digits.all Char.isDigit then some (Int.ofNat (ofDigits digits)) else none

/-- Whether a value is empty or zero. -/
def isNull (value : Text) : Bool := value = [] || integer? value = some 0

/-- What stands before the words that are left, and these words. -/
structure Reading where
  before : Text := []
  rest : List Text

/-- What reads a part of an expression. -/
abbrev Reads (α : Type) := StateT Reading (Except Fault) α

/-- Takes the next word. -/
def next : Reads Text := do
  let reading ← get
  match reading.rest with
  | [] => throw (.missingAfter reading.before)
  | word :: rest => do
    set { reading with before := word, rest }
    return word

/-- What matches at the start of a text: the first group, or the length. -/
def matched (text pattern : Text) : Except Fault Text :=
  match Regex.parse { isLenient := true } pattern with
  | .error fault => .error (.regex fault)
  | .ok { regex, groups, .. } =>
    match regex.longest? false { after := text } with
    | none => .ok (if groups = 0 then ['0'] else [])
    | some m =>
      if groups = 0 then .ok (Text.ofNat (text.length - m.place.after.length))
      else .ok ((m.groups.lookup 1).getD [])

/-- A truth as a value. -/
def ofBool (b : Bool) : Text := if b then ['1'] else ['0']

/-- What an arithmetic operator makes of two numbers. -/
def arithmetic (operation : Int → Int → Except Fault Int) (a b : Text) : Except Fault Text := do
  match integer? a, integer? b with
  | some x, some y => return Text.ofInt (← operation x y)
  | _, _ => throw .noNumber

/-- Whether a comparison holds, of numbers if both values are such. -/
def compared (ofNumbers : Int → Int → Bool) (ofTexts : Text → Text → Bool) (a b : Text) :
    Except Fault Text :=
  match integer? a, integer? b with
  | some x, some y => .ok (ofBool (ofNumbers x y))
  | _, _ => .ok (ofBool (ofTexts a b))

/-- What an operator of a level makes of two values. -/
def operator? (level : Nat) (word : Text) : Option (Text → Text → Except Fault Text) :=
  match level, String.ofList word with
  | 0, "|" => some fun a b =>
    .ok (if !isNull a then a else if b = [] || isNull b then ['0'] else b)
  | 1, "&" => some fun a b => .ok (if isNull a || isNull b then ['0'] else a)
  | 2, "<" => some (compared (· < ·) fun a b => !Text.isLe b a)
  | 2, "<=" => some (compared (· ≤ ·) Text.isLe)
  | 2, "=" | 2, "==" => some (compared (· == ·) (· == ·))
  | 2, "!=" => some (compared (· != ·) (· != ·))
  | 2, ">=" => some (compared (fun x y => y ≤ x) fun a b => Text.isLe b a)
  | 2, ">" => some (compared (fun x y => y < x) fun a b => !Text.isLe a b)
  | 3, "+" => some (arithmetic fun x y => .ok (x + y))
  | 3, "-" => some (arithmetic fun x y => .ok (x - y))
  | 4, "*" => some (arithmetic fun x y => .ok (x * y))
  | 4, "/" => some (arithmetic fun x y =>
    if y = 0 then .error .divisionByZero else .ok (Int.tdiv x y))
  | 4, "%" => some (arithmetic fun x y =>
    if y = 0 then .error .divisionByZero else .ok (Int.tmod x y))
  | 5, ":" => some matched
  | _, _ => none

/-- The place of the first character that is one of several; zero if there is none. -/
def positionOfAny (chars text : Text) : Nat :=
  match text.findIdx? chars.contains with
  | some index => index + 1
  | none => 0

/-- The part of a text from a place, of a length. -/
def part (text start length : Text) : Text :=
  match integer? start, integer? length with
  | some start, some length =>
    if start < 1 || length < 1 then [] else (text.drop (start - 1).toNat).take length.toNat
  | _, _ => []

mutual

/-- Reads a term of a level. -/
def term : (fuel : Nat) → (level : Nat) → Reads Text
  | 0, _ => throw .noNumber
  | fuel + 1, level => do
    if 6 ≤ level then simple fuel
    else
      let first ← term fuel (level + 1)
      further fuel level first

/-- Reads the operators of a level and what follows them. -/
def further : (fuel : Nat) → (level : Nat) → Text → Reads Text
  | 0, _, _ => throw .noNumber
  | fuel + 1, level, first => do
    match (← get).rest with
    | [] => return first
    | word :: _ =>
      match operator? level word with
      | none => return first
      | some apply => do
        let _ ← next
        let second ← term fuel (level + 1)
        further fuel level (← apply first second)

/-- Reads a word, a call or a term in parentheses. -/
def simple : (fuel : Nat) → Reads Text
  | 0 => throw .noNumber
  | fuel + 1 => do
    let word ← next
    match String.ofList word with
    | "(" => do
      let value ← term fuel 0
      match (← get).rest with
      | [')'] :: _ => do
        let _ ← next
        return value
      | _ => throw (.unclosed (← get).before)
    | ")" => throw .closing
    | "+" => next
    | "length" => do return Text.ofNat (← simple fuel).length
    | "index" => do
      let text ← simple fuel
      return Text.ofNat (positionOfAny (← simple fuel) text)
    | "match" => do
      let text ← simple fuel
      matched text (← simple fuel)
    | "substr" => do
      let text ← simple fuel
      let start ← simple fuel
      return part text start (← simple fuel)
    | _ => return word

end

/-- The value of an expression. -/
def value (words : List Text) : Except Fault Text := do
  let (value, reading) ← (term (16 * words.length + 16) 0).run { rest := words }
  match reading.rest with
  | [] => return value
  | word :: _ => throw (.unexpected word)

end Marginalia.Shell.Calculation

namespace Marginalia.Shell

/-- Prints the value of an expression; its status says whether that is something. -/
def Utility.expr (request : Request) : Effect :=
  match if request.arguments.head? = some ['-', '-'] then request.arguments.tail
    else request.arguments with
  | [] => refuse request ("missing operand".toList ++ hint request) 2
  | words =>
    match Calculation.value words with
    | .error fault => refuse request fault.message 2
    | .ok value =>
      { written := [(1, value ++ ['\n'])], status := if Calculation.isNull value then 1 else 0 }

end Marginalia.Shell
