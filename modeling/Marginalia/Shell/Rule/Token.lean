import Marginalia.Shell.Decimal
import Marginalia.Shell.Rule.Basic
import Marginalia.Shell.Rule.Pattern
import Marginalia.Shell.Script

/-!
# The signs of rules

A program of rules as a list of its words and signs, each with its line. Newlines
stay only where they can end a statement. Whether a slash divides or opens a
regular expression depends on what precedes it.
-/

namespace Marginalia.Shell.Rule

/-- A word or sign of a program. -/
inductive Token where
  | sign (written : String)
  | keyword (written : String)
  | builtin (entry : Builtin.Entry)
  | name (name : Text)
  /-- A name right before a parenthesis. -/
  | function (name : Text)
  | number (written : Text) (x : Float)
  | text (t : Text)
  | pattern (source : Text)
  | newline
  /-- The end of the program. -/
  | finish
  /-- Something that is no word or sign, and what is to be said about it. -/
  | wrong (message : Text)

/-- A word or sign with its line. -/
abbrev Item := Token × Nat

namespace Token

/-- The words with a meaning of their own. -/
def keywords : List String :=
  ["BEGIN", "END", "break", "continue", "delete", "do", "else", "exit", "for", "func", "function",
    "getline", "if", "in", "next", "nextfile", "print", "printf", "return", "while"]

/-- The signs, longer ones before the shorter ones that they begin with. -/
def signs : List String :=
  ["++", "--", "+=", "-=", "*=", "/=", "%=", "^=", "==", "<=", ">=", "!=", "!~", "&&", "||", ">>",
    "\x7b", "\x7d", "(", ")", "[", "]", ";", ",", "+", "-", "*", "/", "%", "^", "!", "<", ">", "|",
    "?", ":", "~", "$", "="]

/-- How a word or sign is named in a message. -/
def shown : Token → Text
  | sign written | keyword written => written.toList
  | builtin entry => entry.name.toList
  | name word | function word => word
  | number written _ => written
  | text t => t
  | pattern source => '/' :: source ++ ['/']
  | newline => "end of line".toList
  | finish => "end of file".toList
  | wrong message => message

/-- Whether a slash after this divides. -/
def endsOperand : Token → Bool
  | sign written => [")", "]", "$", "++", "--"].contains written
  | keyword written => written == "getline"
  | builtin _ | name _ | number .. | text _ | pattern _ => true
  | _ => false

/-- Whether a newline after this means nothing. -/
def continues : Token → Bool
  | sign written => ["\x7b", "\x7d", "&&", "||", ",", ";"].contains written
  | keyword written => written == "do" || written == "else"
  | newline => true
  | _ => false

end Token

/-! ## Texts -/

/-- What the text after a backslash stands for, and how much of it. -/
def escape (text : Text) : Text × Nat :=
  match text with
  | [] | 'e' :: _ => (['\\'], 0)
  | '"' :: _ => (['"'], 1)
  | '\n' :: _ => ([], 1)
  | 'x' :: digits =>
    let digits := (digits.take 2).takeWhile fun d => Arithmetic.digitValue d < 16
    if digits = [] then (['\\'], 0)
    else ([.ofNat (Arithmetic.ofDigits 16 digits)], digits.length + 1)
  | text =>
    let (meant, size) := Printing.escape text
    ([meant], size)

/-- A text with its escapes carried out, of which the first `skip` characters are done with. -/
def unescape (skip : Nat) : Text → Text
  | [] => []
  | c :: text =>
    match skip with
    | skip + 1 => unescape skip text
    | 0 =>
      if c = '\\' then (escape text).1 ++ unescape (escape text).2 text
      else c :: unescape 0 text

/-- The written text up to its closing quote, if it has one before the end of the line. -/
def quoted? : Text → Option Text
  | [] => none
  | '"' :: _ => some []
  | '\n' :: _ => none
  | '\\' :: c :: text => (quoted? text).map fun rest => '\\' :: c :: rest
  | c :: text => (quoted? text).map (c :: ·)

/-- The written expression up to its closing slash, if it has one before the end of the line. -/
def slashed? (inSet : Bool) : Text → Option Text
  | [] => none
  | '\n' :: _ => none
  | '\\' :: c :: text => (slashed? inSet text).map fun rest => '\\' :: c :: rest
  | '/' :: text => if inSet then (slashed? inSet text).map ('/' :: ·) else some []
  | '[' :: '^' :: ']' :: text =>
    if inSet then (slashed? false text).map fun rest => '[' :: '^' :: ']' :: rest
    else (slashed? true text).map fun rest => '[' :: '^' :: ']' :: rest
  | '[' :: ']' :: text =>
    (slashed? (!inSet) text).map fun rest => '[' :: ']' :: rest
  | c :: text =>
    (slashed? (if c = '[' then true else if c = ']' then false else inSet) text).map (c :: ·)

/-- An expression without the backslashes before its slashes. -/
def withoutEscapedSlashes : Text → Text
  | [] => []
  | '\\' :: '/' :: text => '/' :: withoutEscapedSlashes text
  | '\\' :: c :: text => '\\' :: c :: withoutEscapedSlashes text
  | c :: text => c :: withoutEscapedSlashes text

/-! ## Words and signs -/

/-- The decimal number at the start of a text, and its written length. -/
def numeral? (text : Text) : Option (Float × Nat) :=
  (Decimal.unsigned?.decimal? text).map fun (x, rest) => (x, text.length - rest.length)

/-- The word, sign or constant at the start of a text, and its written length. -/
def tokenAt (line : Nat) (last : Option Token) (text : Text) : Token × Nat :=
  let place := "line ".toList ++ Text.ofNat line ++ ": ".toList
  match text with
  | [] => (.finish, 0)
  | '"' :: inside =>
    match quoted? inside with
    | some written => (.text (unescape 0 written), written.length + 2)
    | none =>
      let rest := inside.takeWhile (· != '\n')
      (.wrong (place ++ "runaway string constant \"".toList ++ rest.take 10 ++ " ...".toList), 0)
  | c :: inside =>
    if startsName c then
      let word := text.takeWhile isInName
      let written := String.ofList word
      let token := match Builtin.entries.find? (·.name == written) with
        | some entry => .builtin entry
        | none =>
          if Token.keywords.contains written then .keyword written
          else if (text.drop word.length).head? = some '(' then .function word
          else .name word
      (token, word.length)
    else if c = '/' && !(last.any Token.endsOperand) then
      match slashed? false inside with
      | some source => (.pattern (withoutEscapedSlashes source), source.length + 2)
      | none =>
        let rest := inside.takeWhile (· != '\n')
        (.wrong (place ++ "runaway regular expression /".toList ++ rest.take 10 ++
          " ...".toList), 0)
    else
      match if c.isDigit || c = '.' then numeral? text else none with
      | some (x, size) => (.number (text.take size) x, size)
      | none =>
        match Token.signs.find? fun sign => Text.startsWith sign.toList text with
        | some sign => (.sign sign, sign.length)
        | none =>
          (.wrong (Text.ofNat line ++ ": unexpected character '".toList ++ [c, '\'']), 0)

/-- The words and signs of a text; `fuel` is more than its length. -/
def items : (fuel line : Nat) → Option Token → Text → List Item
  | 0, line, _, _ => [(.finish, line)]
  | fuel + 1, line, last, text =>
    match text with
    | [] => [(.finish, line)]
    | ' ' :: rest | '\t' :: rest | '\r' :: rest => items fuel line last rest
    | '\\' :: '\n' :: rest => items fuel (line + 1) last rest
    | '#' :: rest => items fuel line last (rest.dropWhile (· != '\n'))
    | '\n' :: rest =>
      if last.all Token.continues then items fuel (line + 1) last rest
      else (.newline, line) :: items fuel (line + 1) (some .newline) rest
    | text =>
      match tokenAt line last text with
      | (.wrong message, _) => [(.wrong message, line)]
      | (token, size) => (token, line) :: items fuel line (some token) (text.drop size)

/-- The words and signs of a program. -/
def itemsOf (source : Text) : List Item :=
  let source := if source.getLast? = some '\n' then source else source ++ ['\n']
  items (source.length + 1) 1 none source

end Marginalia.Shell.Rule
