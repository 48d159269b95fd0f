import Marginalia.Shell.Decimal

/-!
# Printing

Escapes in printed texts, and formats. A format is gone through again and again
until its arguments are used up; what an escape stands for is printed as it is and
is never a directive.
-/

namespace Marginalia.Shell.Printing

/-- What a letter after a backslash stands for. -/
def letters : List (Char × Char) :=
  [('\\', '\\'), ('a', '\x07'), ('b', '\x08'), ('e', '\x1b'), ('f', '\x0c'), ('n', '\n'),
    ('r', '\r'), ('t', '\t'), ('v', '\x0b')]

/-- Whether a character is an octal digit. -/
def isOctal (c : Char) : Bool := '0' ≤ c && c ≤ '7'

/-- The byte that up to three octal digits at the start of a text write, and their number. -/
def octal (text : Text) : Char × Nat :=
  let digits := (text.take 3).takeWhile isOctal
  (.ofNat (Arithmetic.ofDigits 8 digits % 256), digits.length)

/-- What the text after a backslash stands for, and how much of it; nothing known is a backslash. -/
def escape (text : Text) : Char × Nat :=
  match text with
  | [] => ('\\', 0)
  | c :: _ =>
    match letters.lookup c with
    | some meant => (meant, 1)
    | none => if isOctal c then octal text else ('\\', 0)

/--
A text with its escapes carried out, of which the first `skip` characters are done
with. One escape ends all printing, and the second result says that it came. A
zero may stand before octal digits.
-/
def unescape (skip : Nat) : Text → Text × Bool
  | [] => ([], false)
  | c :: text =>
    match skip with
    | skip + 1 => unescape skip text
    | 0 =>
      if c != '\\' then
        let (rest, stopped) := unescape 0 text
        (c :: rest, stopped)
      else if text.head? = some 'c' then ([], true)
      else
        let zero := text.head? = some '0' && (text.drop 1).head?.any isOctal
        let (meant, size) := escape (if zero then text.drop 1 else text)
        let (rest, stopped) := unescape (if zero then size + 1 else size) text
        (meant :: rest, stopped)

/-- Texts with their escapes carried out and blanks between them, up to where printing stops. -/
def words : List Text → Text × Bool
  | [] => ([], false)
  | [last] => unescape 0 last
  | first :: others =>
    match unescape 0 first with
    | (text, true) => (text, true)
    | (text, false) =>
      let (rest, stopped) := words others
      (text ++ ' ' :: rest, stopped)

/-- What the echo command of the interpreter prints. -/
def echo (arguments : List Text) : Text :=
  let (isShort, arguments) := match arguments with
    | ['-', 'n'] :: rest => (true, rest)
    | arguments => (false, arguments)
  let (text, stopped) := words arguments
  if isShort || stopped then text else text ++ ['\n']

/-! ## Formats -/

/-- What stands between the percent sign and the letter of a directive. -/
structure Layout where
  left : Bool := false
  zeros : Bool := false
  plus : Bool := false
  space : Bool := false
  alternate : Bool := false
  width : Nat := 0
  precision : Option Nat := none
  deriving DecidableEq, Repr

/-- A text in its width. -/
def Layout.pad (layout : Layout) (text : Text) : Text :=
  let blanks := List.replicate (layout.width - text.length) ' '
  if layout.left then text ++ blanks else blanks ++ text

/-- Digits with a sign or mark before them, in their width. -/
def Layout.number (layout : Layout) (mark digits : Text) : Text :=
  let digits := match layout.precision with
    | some 0 => if digits = ['0'] then [] else digits
    | some least => List.replicate (least - digits.length) '0' ++ digits
    | none =>
      if layout.zeros && !layout.left then
        List.replicate (layout.width - mark.length - digits.length) '0' ++ digits
      else digits
  layout.pad (mark ++ digits)

/-- An integer in decimal. -/
def Layout.signed (layout : Layout) (n : Int) : Text :=
  let mark :=
    if n < 0 then ['-'] else if layout.plus then ['+'] else if layout.space then [' '] else []
  layout.number mark (Text.ofNat n.natAbs)

/-- A natural number in a base. -/
def Layout.unsigned (layout : Layout) (letter : Char) (n : Nat) : Text :=
  let isUpper := letter == 'X'
  let base := if letter = 'o' then 8 else if letter = 'u' then 10 else 16
  let digits := (Nat.toDigits base n).map fun c => if isUpper then c.toUpper else c
  if !layout.alternate || n = 0 || letter = 'u' then layout.number [] digits
  else if letter = 'o' then layout.number [] ('0' :: digits)
  else layout.number ['0', letter] digits

/-- A number with a point, in the form of a letter. -/
def Layout.fraction (layout : Layout) (letter : Char) (x : Float) : Text :=
  let mark :=
    if Decimal.isNegative x then ['-'] else if layout.plus then ['+']
    else if layout.space then [' '] else []
  let digits := Decimal.shown letter layout.precision layout.alternate x
  let isFinite := (digits.head?).any Char.isDigit
  Layout.number { layout with precision := none, zeros := layout.zeros && isFinite } mark digits

/-- The part of a text that a layout shows. -/
def Layout.text (layout : Layout) (text : Text) : Text :=
  layout.pad (match layout.precision with
    | some most => text.take most
    | none => text)

/-- Where the use of a format stands. -/
structure Progress where
  out : Text := []
  arguments : List Text
  /-- What is to be said about arguments that are no numbers. -/
  warnings : List Text := []
  /-- Why the format cannot be used any further. -/
  fault : Option Text := none
  /-- Whether an argument ended all printing. -/
  stopped : Bool := false

namespace Progress

/-- Prints a text. -/
def print (p : Progress) (text : Text) : Progress := { p with out := p.out ++ text }

/-- The number at the start of an argument, and what is to be said about the rest. -/
def integer (isSigned : Bool) (argument : Text) : Int × Option Text :=
  match argument with
  | '\'' :: c :: _ | '"' :: c :: _ => (Int.ofNat c.toNat, none)
  | argument =>
    let text := argument.dropWhile fun c => c == ' ' || ('\t' ≤ c && c ≤ '\r')
    let (isNegative, digits) := match text with
      | '-' :: digits => (true, digits)
      | '+' :: digits => (false, digits)
      | digits => (false, digits)
    if !(digits.head?.any Char.isDigit) then
      (0, if argument = [] then none else some (argument ++ ": expected numeric value".toList))
    else
      let (n, rest) := Arithmetic.numeral digits
      let value := if isNegative then -Int.ofNat n else Int.ofNat n
      let outOfRange :=
        if isSigned then value < Arithmetic.least || Arithmetic.largest < value
        else UInt64.size ≤ n
      let value :=
        if !outOfRange then value
        else if !isSigned then Int.ofNat (UInt64.size - 1)
        else if isNegative then Arithmetic.least
        else Arithmetic.largest
      (value,
        if rest ≠ [] then some (argument ++ ": not completely converted".toList)
        else if outOfRange then some (argument ++ ": Numerical result out of range".toList)
        else none)

/-- Takes the next argument as a number. -/
def takeInteger (p : Progress) (isSigned : Bool) : Int × Progress :=
  match p.arguments with
  | [] => (0, p)
  | argument :: arguments =>
    let (n, warning) := integer isSigned argument
    (n, { p with arguments, warnings := p.warnings ++ warning.toList })

/-- Takes the next argument as a number with a point. -/
def takeFraction (p : Progress) : Float × Progress :=
  match p.arguments with
  | [] => (0, p)
  | argument :: arguments =>
    let (x, warning) := match argument with
      | '\'' :: c :: _ | '"' :: c :: _ => (Float.ofNat c.toNat, none)
      | [] => (0, none)
      | argument =>
        match Decimal.read? argument with
        | none => (0, some (argument ++ ": expected numeric value".toList))
        | some (x, []) => (x, none)
        | some (x, _) => (x, some (argument ++ ": not completely converted".toList))
    (x, { p with arguments, warnings := p.warnings ++ warning.toList })

/-- Takes the next argument as a text. -/
def takeText (p : Progress) : Text × Progress :=
  (p.arguments.headD [], { p with arguments := p.arguments.tail })

end Progress

/-- The flags at the start of a directive. -/
def flags (text : Text) : Layout :=
  text.foldl (fun layout c =>
    match c with
    | '-' => { layout with left := true }
    | '0' => { layout with zeros := true }
    | '+' => { layout with plus := true }
    | ' ' => { layout with space := true }
    | '#' => { layout with alternate := true }
    | _ => layout) {}

/-- Whether a character is a flag of directives. -/
def isFlag (c : Char) : Bool := c == '-' || c == '0' || c == '+' || c == ' ' || c == '#'

/-- A number in a directive, which an argument can give; the third result is its written length. -/
def measure (p : Progress) (text : Text) : Int × Progress × Nat :=
  match text with
  | '*' :: _ =>
    let (n, p) := p.takeInteger true
    (n, p, 1)
  | text =>
    let digits := text.takeWhile Char.isDigit
    (Arithmetic.ofDigits 10 digits, p, digits.length)

/-- Carries out the directive of a letter. -/
def direct (p : Progress) (layout : Layout) (written : Text) (letter : Char) : Progress :=
  match letter with
  | 's' =>
    let (text, p) := p.takeText
    p.print (layout.text text)
  | 'b' =>
    let (text, p) := p.takeText
    let (text, stopped) := unescape 0 text
    { p.print (layout.text text) with stopped }
  | 'c' =>
    let (text, p) := p.takeText
    p.print (layout.pad [text.headD '\x00'])
  | 'd' | 'i' =>
    let (n, p) := p.takeInteger true
    p.print (layout.signed n)
  | 'o' | 'u' | 'x' | 'X' =>
    let (n, p) := p.takeInteger false
    p.print (layout.unsigned letter (Arithmetic.bits n))
  | 'f' | 'F' | 'e' | 'E' | 'g' | 'G' =>
    let (x, p) := p.takeFraction
    p.print (layout.fraction letter x)
  | _ => { p with fault := some (written ++ ": invalid directive".toList) }

/-- Carries out the directive after a percent sign; the second result is its written length. -/
def directive (p : Progress) (text : Text) : Progress × Nat :=
  let marks := text.takeWhile isFlag
  let layout := flags marks
  let (width, p, widthSize) := measure p (text.drop marks.length)
  let layout := { layout with width := width.natAbs, left := layout.left || width < 0 }
  let size := marks.length + widthSize
  let (layout, p, size) := match text.drop size with
    | '.' :: rest =>
      let (precision, p, precisionSize) := measure p rest
      ({ layout with precision := if precision < 0 then none else some precision.natAbs }, p,
        size + 1 + precisionSize)
    | _ => (layout, p, size)
  match text.drop size with
  | [] => ({ p with fault := some "missing format character".toList }, size)
  | letter :: _ => (direct p layout ('%' :: text.take (size + 1)) letter, size + 1)

/-- Goes once through a format, of which the first `skip` characters are done with. -/
def formatOnce (p : Progress) (skip : Nat) : Text → Progress
  | [] => p
  | c :: text =>
    if p.stopped || p.fault.isSome then p
    else
      match skip with
      | skip + 1 => formatOnce p skip text
      | 0 =>
        match c with
        | '\\' => formatOnce (p.print [(escape text).1]) (escape text).2 text
        | '%' =>
          if text.head? = some '%' then formatOnce (p.print ['%']) 1 text
          else formatOnce (directive p text).1 (directive p text).2 text
        | c => formatOnce (p.print [c]) 0 text

/-- Goes through a format until the arguments are used up. -/
def formatAll (format : Text) : Nat → Progress → Progress
  | 0, p => p
  | fuel + 1, p =>
    let next := formatOnce p 0 format
    if next.stopped || next.fault.isSome || next.arguments = [] ||
        next.arguments.length = p.arguments.length then next
    else formatAll format fuel next

/-- What comes of a format and its arguments. -/
def format (format : Text) (arguments : List Text) : Progress :=
  formatAll format (arguments.length + 1) { arguments }

end Marginalia.Shell.Printing
