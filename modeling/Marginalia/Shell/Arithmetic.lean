import Marginalia.Text.Basic

/-!
# Arithmetic

The expressions of scripts: integers of 64 bits that wrap around, variables, and
the usual operators. An expression is read into a tree, and the tree is evaluated
from left to right, because it can assign.
-/

namespace Marginalia.Shell.Arithmetic

/-- An operator between two values, by its precedence. -/
inductive Operator where
  | bitOr | bitXor | bitAnd
  | equal | notEqual
  | less | lessEqual | greater | greaterEqual
  | shiftLeft | shiftRight
  | add | subtract
  | multiply | divide | remainder
  deriving DecidableEq, Repr

/-- An operator on one value. -/
inductive Sign where
  | plus | minus | not | complement
  deriving DecidableEq, Repr

/-- An expression. -/
inductive Expr where
  | number (n : Int)
  | variable (name : Text)
  | sign (sign : Sign) (value : Expr)
  | binary (operator : Operator) (left right : Expr)
  | both (left right : Expr)
  | either (left right : Expr)
  | choice (condition accepted rejected : Expr)
  /-- Assigns a value, or what an operator makes of the old value and the new one. -/
  | assign (name : Text) (operator : Option Operator) (value : Expr)
  deriving Repr

/-- Why an expression has no value. -/
inductive Fault where
  | noPrimary
  | noEnd
  | noColon
  | noClosing
  | divisionByZero
  /-- A variable that holds no number. -/
  | notANumber (value : Text)
  deriving DecidableEq, Repr

/-- A fault in words, about an expression. -/
def Fault.message (expression : Text) : Fault → Text
  | .notANumber value => "Illegal number: ".toList ++ value
  | fault =>
    let cause := match fault with
      | .noPrimary => "expecting primary"
      | .noEnd => "expecting EOF"
      | .noColon => "expecting ':'"
      | .noClosing => "expecting ')'"
      | _ => "division by zero"
    "arithmetic expression: ".toList ++ cause.toList ++ ": \"".toList ++ expression ++ ['"']

/-- A piece of an expression. -/
inductive Token where
  | number (n : Int)
  | name (name : Text)
  | mark (text : Text)
  deriving DecidableEq, Repr

/-- The signs of expressions, of which no later one starts with an earlier one. -/
def marks : List Text :=
  ["<<=", ">>=", "&&", "||", "==", "!=", "<=", ">=", "<<", ">>", "+=", "-=", "*=", "/=", "%=", "&=",
    "|=", "^=", "+", "-", "*", "/", "%", "<", ">", "&", "|", "^", "!", "~", "(", ")", "?", ":",
    "="].map String.toList

/-- An integer of 64 bits. -/
def wrap (n : Int) : Int := n.bmod UInt64.size

/-- The largest integer of 64 bits. -/
def largest : Int := Int64.maxValue.toInt

/-- The least integer of 64 bits. -/
def least : Int := Int64.minValue.toInt

/-- The value of a digit in bases up to sixteen. -/
def digitValue (c : Char) : Nat :=
  if c.isDigit then c.toNat - '0'.toNat
  else if 'a' ≤ c && c ≤ 'f' then c.toNat - 'a'.toNat + 10
  else if 'A' ≤ c && c ≤ 'F' then c.toNat - 'A'.toNat + 10
  else 16

/-- The number that digits write in a base. -/
def ofDigits (base : Nat) (digits : Text) : Nat :=
  digits.foldl (fun n c => n * base + digitValue c) 0

/-- The longest numeral at the start of a text, and what follows it: hexadecimal after `0x`,
octal after another zero, and decimal otherwise. -/
def numeral (text : Text) : Nat × Text :=
  let read := fun (base : Nat) (text : Text) =>
    let digits := text.takeWhile fun c => digitValue c < base
    (ofDigits base digits, text.drop digits.length)
  match text with
  | '0' :: x :: d :: rest =>
    if (x = 'x' || x = 'X') && digitValue d < 16 then read 16 (d :: rest) else read 8 text
  | '0' :: _ => read 8 text
  | text => read 10 text

/-- Cuts an expression into tokens; a character without meaning is a token of its own. -/
def tokens : Nat → Text → List Token
  | 0, _ => []
  | fuel + 1, text =>
    match text with
    | [] => []
    | c :: rest =>
      if c = ' ' || c = '\t' || c = '\n' then tokens fuel rest
      else if c.isDigit then
        .number (min (numeral text).1 largest) :: tokens fuel (numeral text).2
      else if c.isAlpha || c = '_' then
        let name := text.takeWhile fun c => c.isAlphanum || c == '_'
        .name name :: tokens fuel (text.drop name.length)
      else
        match marks.find? fun mark => Text.startsWith mark text with
        | some mark => .mark mark :: tokens fuel (text.drop mark.length)
        | none => .mark [c] :: tokens fuel rest

/-- The operator of a sign and its precedence; the ones that bind tighter have more. -/
def operator? (mark : Text) : Option (Operator × Nat) :=
  match String.ofList mark with
  | "|" => some (.bitOr, 3)
  | "^" => some (.bitXor, 4)
  | "&" => some (.bitAnd, 5)
  | "==" => some (.equal, 6)
  | "!=" => some (.notEqual, 6)
  | "<" => some (.less, 7)
  | "<=" => some (.lessEqual, 7)
  | ">" => some (.greater, 7)
  | ">=" => some (.greaterEqual, 7)
  | "<<" => some (.shiftLeft, 8)
  | ">>" => some (.shiftRight, 8)
  | "+" => some (.add, 9)
  | "-" => some (.subtract, 9)
  | "*" => some (.multiply, 10)
  | "/" => some (.divide, 10)
  | "%" => some (.remainder, 10)
  | _ => none

/-- The operator before an equals sign, if a sign assigns. -/
def assignment? (mark : Text) : Option (Option Operator) :=
  if mark = ['='] then some none
  else
    match String.ofList mark with
    | "<<=" | ">>=" | "+=" | "-=" | "*=" | "/=" | "%=" | "&=" | "|=" | "^=" =>
      some ((operator? mark.dropLast).map (·.1))
    | _ => none

/-- A result and the tokens after it. -/
abbrev Parsed := Except Fault (Expr × List Token)

mutual

/-- Reads a value with the signs before it. -/
def primary : Nat → List Token → Parsed
  | 0, _ => .error .noPrimary
  | fuel + 1, tokens =>
    let signed := fun (sign : Sign) (rest : List Token) => do
      let (value, rest) ← primary fuel rest
      return (.sign sign value, rest)
    match tokens with
    | .number n :: rest => .ok (.number n, rest)
    | .name name :: rest => .ok (.variable name, rest)
    | .mark ['('] :: rest => do
      let (value, rest) ← assignment fuel rest
      match rest with
      | .mark [')'] :: rest => return (value, rest)
      | _ => .error .noClosing
    | .mark ['+'] :: rest => signed .plus rest
    | .mark ['-'] :: rest => signed .minus rest
    | .mark ['!'] :: rest => signed .not rest
    | .mark ['~'] :: rest => signed .complement rest
    | _ => .error .noPrimary

/-- Reads the operators that follow a value and bind at least as tight as `least`. -/
def operators : Nat → Nat → Expr → List Token → Parsed
  | 0, _, left, tokens => .ok (left, tokens)
  | fuel + 1, least, left, tokens =>
    match tokens with
    | .mark mark :: rest =>
      match operator? mark with
      | some (operator, precedence) =>
        if precedence < least then .ok (left, tokens)
        else do
          let (right, rest) ← primary fuel rest
          let (right, rest) ← operators fuel (precedence + 1) right rest
          operators fuel least (.binary operator left right) rest
      | none => .ok (left, tokens)
    | _ => .ok (left, tokens)

/-- Reads values that are tried from left to right until one is false. -/
def conjunction : Nat → List Token → Parsed
  | 0, _ => .error .noPrimary
  | fuel + 1, tokens => do
    let (left, rest) ← primary fuel tokens
    let (left, rest) ← operators fuel 0 left rest
    match rest with
    | .mark ['&', '&'] :: rest => do
      let (right, rest) ← conjunction fuel rest
      return (.both left right, rest)
    | rest => return (left, rest)

/-- Reads values that are tried from left to right until one is true. -/
def disjunction : Nat → List Token → Parsed
  | 0, _ => .error .noPrimary
  | fuel + 1, tokens => do
    let (left, rest) ← conjunction fuel tokens
    match rest with
    | .mark ['|', '|'] :: rest => do
      let (right, rest) ← disjunction fuel rest
      return (.either left right, rest)
    | rest => return (left, rest)

/-- Reads a value or a choice between two. -/
def condition : Nat → List Token → Parsed
  | 0, _ => .error .noPrimary
  | fuel + 1, tokens => do
    let (test, rest) ← disjunction fuel tokens
    match rest with
    | .mark ['?'] :: rest => do
      let (accepted, rest) ← assignment fuel rest
      match rest with
      | .mark [':'] :: rest => do
        let (rejected, rest) ← condition fuel rest
        return (.choice test accepted rejected, rest)
      | _ => .error .noColon
    | rest => return (test, rest)

/-- Reads a value or an assignment. -/
def assignment : Nat → List Token → Parsed
  | 0, _ => .error .noPrimary
  | fuel + 1, tokens =>
    match tokens with
    | .name name :: .mark mark :: rest =>
      match assignment? mark with
      | some operator => do
        let (value, rest) ← assignment fuel rest
        return (.assign name operator value, rest)
      | none => condition fuel tokens
    | tokens => condition fuel tokens

end

/-- The expression that a text writes. -/
def parse (text : Text) : Except Fault Expr := do
  let (expr, rest) ← assignment (8 * text.length + 8) (tokens (text.length + 1) text)
  if rest = [] then return expr else .error .noEnd

/-- The natural number of 64 bits with the same bits. -/
def bits (n : Int) : Nat := (n % UInt64.size).toNat

/-- What an operator makes of two values. -/
def Operator.apply (operator : Operator) (a b : Int) : Except Fault Int :=
  let truth := fun (p : Bool) => Except.ok (if p then 1 else 0)
  match operator with
  | .bitOr => .ok (wrap (bits a ||| bits b))
  | .bitXor => .ok (wrap (bits a ^^^ bits b))
  | .bitAnd => .ok (wrap (bits a &&& bits b))
  | .equal => truth (a == b)
  | .notEqual => truth (a != b)
  | .less => truth (a < b)
  | .lessEqual => truth (a ≤ b)
  | .greater => truth (b < a)
  | .greaterEqual => truth (b ≤ a)
  | .shiftLeft => .ok (wrap (bits a <<< (bits b % 64)))
  | .shiftRight => .ok (a >>> (bits b % 64))
  | .add => .ok (wrap (a + b))
  | .subtract => .ok (wrap (a - b))
  | .multiply => .ok (wrap (a * b))
  | .divide => if b = 0 then .error .divisionByZero else .ok (wrap (a.tdiv b))
  | .remainder => if b = 0 then .error .divisionByZero else .ok (wrap (a.tmod b))

/-- What a sign makes of a value. -/
def Sign.apply : Sign → Int → Int
  | .plus, n => n
  | .minus, n => wrap (-n)
  | .not, n => if n = 0 then 1 else 0
  | .complement, n => -n - 1

/-- Evaluation keeps the values that were assigned, last first. -/
abbrev Eval := StateT (List (Text × Int)) (Except Fault)

/-- The value of an expression. -/
def Expr.eval (lookup : Text → Except Fault Int) : Expr → Eval Int
  | .number n => pure n
  | .variable name => do
    match (← get).lookup name with
    | some n => pure n
    | none => lookup name
  | .sign s value => do return s.apply (← value.eval lookup)
  | .binary operator left right => do
    let a ← left.eval lookup
    let b ← right.eval lookup
    operator.apply a b
  | .both left right => do
    if (← left.eval lookup) = 0 then pure 0
    else return if (← right.eval lookup) = 0 then 0 else 1
  | .either left right => do
    if (← left.eval lookup) ≠ 0 then pure 1
    else return if (← right.eval lookup) = 0 then 0 else 1
  | .choice test accepted rejected => do
    if (← test.eval lookup) ≠ 0 then accepted.eval lookup else rejected.eval lookup
  | .assign name operator value => do
    let new ← value.eval lookup
    let result ← match operator with
      | none => pure new
      | some operator => do
        let old ← match (← get).lookup name with
          | some n => pure n
          | none => lookup name
        operator.apply old new
    modify ((name, result) :: ·)
    pure result

/-- The number that a whole text writes, blanks around it apart; no text is zero. -/
def integer? (text : Text) : Option Int :=
  let isBlank := fun c => c == ' ' || ('\t' ≤ c && c ≤ '\r')
  let text := Text.dropEndWhile isBlank (text.dropWhile isBlank)
  let unsigned := fun (text : Text) =>
    match text with
    | [] => none
    | c :: _ =>
      if c.isDigit && (numeral text).2 = [] then some (Int.ofNat (numeral text).1) else none
  match text with
  | [] => some 0
  | '-' :: digits => (unsigned digits).map Neg.neg
  | '+' :: digits => unsigned digits
  | digits => unsigned digits

/-- The value of the expression that a text writes, and what it assigns, last first. -/
def evaluate (lookup : Text → Except Fault Int) (text : Text) :
    Except Fault (Int × List (Text × Int)) := do
  let expr ← parse text
  (expr.eval lookup).run []

end Marginalia.Shell.Arithmetic
