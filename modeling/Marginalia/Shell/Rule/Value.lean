import Marginalia.Shell.Printing
import Marginalia.Shell.Rule.Basic

/-!
# The values of rules

A value is a number or a text, and converts to the other when that is asked for. A
text that comes from the input and looks like a number counts as one when it is
compared. A number with nothing behind the point is written as an integer, any other
number by a format.
-/

namespace Marginalia.Shell.Rule

/-- A value. -/
inductive Value where
  /-- What a variable has before it is given a value. -/
  | absent
  | number (x : Float)
  | text (t : Text)
  /-- A text that comes from the input. -/
  | input (t : Text)

namespace Value

/-- Whether a character is a blank around a number. -/
def isBlank (c : Char) : Bool := c == ' ' || ('\t' ≤ c && c ≤ '\r')

/-- The number at the start of a text; zero without one. -/
def leadingNumber (t : Text) : Float := ((Decimal.read? t).map (·.1)).getD 0

/-- The number that is all of a text but blanks. -/
def numeral? (t : Text) : Option Float :=
  match t.dropWhile isBlank with
  | [] => none
  | c :: _ =>
    if c.isDigit || c == '+' || c == '-' || c == '.' then
      match Decimal.read? t with
      | some (x, rest) => if rest.all isBlank then some x else none
      | none => none
    else none

/-- A truth as a number. -/
def ofBool (b : Bool) : Value := .number (if b then 1 else 0)

/-- The number of something counted. -/
def ofNat (n : Nat) : Value := .number (Float.ofNat n)

/-- A value as a number. -/
def asNumber : Value → Float
  | absent => 0
  | number x => x
  | text t | input t => leadingNumber t

/-- The number that a value is compared as, if it counts as one. -/
def comparable? : Value → Option Float
  | absent => some 0
  | number x => some x
  | text _ => none
  | input t => numeral? t

/-- Whether a value counts as true. -/
def isTrue : Value → Bool
  | absent => false
  | number x => x != 0
  | text t => t ≠ []
  | input t =>
    match numeral? t with
    | some x => x != 0
    | none => t ≠ []

end Value

/-! ## Numbers as integers -/

/-- The least number above all that fit into 64 bits. -/
def wordSize : Float := 18446744073709551616.0

/-- The least number above all that fit into 64 bits with a sign. -/
def signedSize : Float := 9223372036854775808.0

/-- A number as an integer of 64 bits with a sign, without what stands behind the point. -/
def clamped (x : Float) : Int :=
  if signedSize ≤ x then Arithmetic.largest
  else if x ≤ -signedSize then Arithmetic.least
  else Decimal.truncated x

/-- A number as an integer of 64 bits without a sign. -/
def word (x : Float) : Nat :=
  if wordSize ≤ x then UInt64.size - 1
  else if x < 0 then Arithmetic.bits (clamped x)
  else (Decimal.truncated x).toNat

/-- The integer that a number is written as, if it is one. -/
def integer? (x : Float) : Option Int :=
  if x == x.floor && -signedSize ≤ x && x ≤ wordSize then
    some (if x < 0 then clamped x else Int.ofNat (word x))
  else none

/-! ## Formats -/

/-- Why a format cannot be filled. -/
inductive FormatFault where
  | missingArguments
  | improper (number : Nat)
  deriving DecidableEq, Repr

/-- A fault in words, with what was filled and the format. -/
def FormatFault.message (fault : FormatFault) (name format : Text) : Text :=
  let about := name ++ "(\"".toList ++ format ++ "\")".toList
  match fault with
  | .missingArguments => "not enough arguments passed to ".toList ++ about
  | .improper number =>
    "improper conversion(number ".toList ++ Text.ofNat number ++ ") in ".toList ++ about

/-- A width or precision at the start of a text: its value, the values left, and its length. -/
def measure (values : List Value) (text : Text) : Except FormatFault (Int × List Value × Nat) :=
  match text with
  | '*' :: _ =>
    match values with
    | value :: values => .ok (clamped value.asNumber, values, 1)
    | [] => .error .missingArguments
  | text =>
    let digits := text.takeWhile Char.isDigit
    .ok (Arithmetic.ofDigits 10 digits, values, digits.length)

/-- The character that a value stands for. -/
def charOf (value : Value) : Text :=
  match value, value.comparable? with
  | .absent, _ => ['\x00']
  | .text t, _ => t.take 1
  | .input t, none => t.take 1
  | _, some x => [.ofNat (word x % 256)]
  | .number _, none => []

/-- What a directive makes of a value; without an answer the letter is no directive. -/
def directed? (asText : Value → Text) (layout : Printing.Layout) (letter : Char) (value : Value) :
    Option Text :=
  match letter with
  | 'd' | 'i' => some (layout.signed (clamped value.asNumber))
  | 'o' | 'u' | 'x' | 'X' => some (layout.unsigned letter (word value.asNumber))
  | 'f' | 'F' | 'e' | 'E' | 'g' | 'G' => some (layout.fraction letter value.asNumber)
  | 's' => some (layout.text (asText value))
  | 'c' =>
    let t := charOf value
    some (layout.pad (if t = [] then ['\x00'] else t))
  | _ => none

/-- The directive after a percent sign: what it prints, the values left, and its length. -/
def directive (asText : Value → Text) (number : Nat) (values : List Value) (text : Text) :
    Except FormatFault (Text × List Value × Nat) := do
  let marks := text.takeWhile Printing.isFlag
  let layout := Printing.flags marks
  let (width, values, widthSize) ← measure values (text.drop marks.length)
  let layout := { layout with width := width.natAbs, left := layout.left || width < 0 }
  let size := marks.length + widthSize
  let (layout, values, size) ← match text.drop size with
    | '.' :: rest => do
      let (precision, values, precisionSize) ← measure values rest
      let precision := if precision < 0 then none else some precision.natAbs
      pure ({ layout with precision }, values, size + 1 + precisionSize)
    | _ => pure (layout, values, size)
  let modifiers := (text.drop size).takeWhile fun c => c == 'l' || c == 'h'
  let size := size + modifiers.length
  match values with
  | [] => throw .missingArguments
  | value :: values =>
    match (text.drop size).head?.bind fun letter => directed? asText layout letter value with
    | some printed => return (printed, values, size + 1)
    | none => throw (.improper number)

/-- A format with values put in, as far as it can be filled. -/
def fillFrom (asText : Value → Text) (number : Nat) (values : List Value) (skip : Nat) :
    Text → Text × Option FormatFault
  | [] => ([], none)
  | c :: text =>
    match skip with
    | skip + 1 => fillFrom asText number values skip text
    | 0 =>
      if c != '%' then
        let (rest, fault) := fillFrom asText number values 0 text
        (c :: rest, fault)
      else if text.head? = some '%' then
        let (rest, fault) := fillFrom asText number values 1 text
        (c :: rest, fault)
      else
        match directive asText number values text with
        | .error fault => ([], some fault)
        | .ok (printed, values, size) =>
          let (rest, fault) := fillFrom asText (number + 1) values size text
          (printed ++ rest, fault)

/-- A number in a form that a format gives. -/
def numberText (format : Text) (x : Float) : Text :=
  match integer? x with
  | some n => Text.ofInt n
  | none =>
    if x != x then "-nan".toList
    else (fillFrom (fun _ => []) 1 [.number x] 0 format).1

/-- A value as a text; a format is for numbers that are no integers. -/
def Value.asText (format : Text) : Value → Text
  | absent => []
  | number x => numberText format x
  | text t | input t => t

/-- A format with values put in, as far as it can be filled. -/
def fill (numberFormat format : Text) (values : List Value) : Text × Option FormatFault :=
  fillFrom (·.asText numberFormat) 1 values 0 format

/-! ## Arithmetic -/

/-- What is left of a number after another one was taken off as often as possible. -/
def remainder (a b : Float) : Float :=
  if a.abs < 9007199254740992.0 && b.abs < 9007199254740992.0 && b != 0 && a == a.floor &&
      b == b.floor then
    Float.ofInt (Int.tmod (Decimal.truncated a) (Decimal.truncated b))
  else if b == 0 then 0 / 0
  else
    let quotient := a / b
    a - b * (if quotient < 0 then quotient.ceil else quotient.floor)

/-- What an operator makes of two numbers. -/
def Operator.apply : Operator → Float → Float → Float
  | .plus, a, b => a + b
  | .minus, a, b => a - b
  | .times, a, b => a * b
  | .over, a, b => a / b
  | .modulo, a, b => remainder a b
  | .power, a, b => a.pow b

/-- Whether a relation holds between two numbers. -/
def Relation.ofNumbers : Relation → Float → Float → Bool
  | .less, a, b => a < b
  | .atMost, a, b => a ≤ b
  | .equal, a, b => a == b
  | .unequal, a, b => a != b
  | .atLeast, a, b => b ≤ a
  | .greater, a, b => b < a

/-- Whether a relation holds between two texts. -/
def Relation.ofTexts : Relation → Text → Text → Bool
  | .less, a, b => !Text.isLe b a
  | .atMost, a, b => Text.isLe a b
  | .equal, a, b => a == b
  | .unequal, a, b => a != b
  | .atLeast, a, b => Text.isLe b a
  | .greater, a, b => !Text.isLe a b

/-- Whether a relation holds between two values: as numbers if both count as such. -/
def Relation.holds (relation : Relation) (numberFormat : Text) (a b : Value) : Bool :=
  match a.comparable?, b.comparable? with
  | some x, some y => relation.ofNumbers x y
  | _, _ => relation.ofTexts (a.asText numberFormat) (b.asText numberFormat)

end Marginalia.Shell.Rule
