import Marginalia.Shell.Arithmetic

/-!
# Numbers with a point

How binary fractions of 64 bits are written and read in decimal. A value is taken
apart into a fraction of natural numbers, and all rounding is done on that: to the
nearest decimal, and halfway between two to the one that is even.
-/

namespace Marginalia.Shell.Decimal

/-- A value without its sign. -/
inductive Magnitude where
  | finite (numerator denominator : Nat)
  | infinite
  | undefined
  deriving DecidableEq, Repr

/-- The number of values that the fraction part of a binary fraction can have. -/
def fractionSize : Nat := 4503599627370496

/-- The exact value of a binary fraction, without its sign. -/
def magnitude (x : Float) : Magnitude :=
  let bits := x.toBits.toNat
  let exponent := bits / fractionSize % 2048
  let fraction := bits % fractionSize
  if exponent = 2047 then if fraction = 0 then .infinite else .undefined
  else if exponent = 0 then .finite fraction (Nat.pow 2 1074)
  else if 1075 ≤ exponent then
    .finite ((fraction + fractionSize) * Nat.pow 2 (exponent - 1075)) 1
  else .finite (fraction + fractionSize) (Nat.pow 2 (1075 - exponent))

/-- Whether a binary fraction has the sign below zero. -/
def isNegative (x : Float) : Bool := x.toBits.toNat / fractionSize / 2048 = 1

/-- A quotient rounded to the nearest natural number, halfway to the even one. -/
def roundDiv (numerator denominator : Nat) : Nat :=
  let quotient := numerator / denominator
  let double := 2 * (numerator % denominator)
  if denominator < double || (denominator = double && quotient % 2 = 1) then quotient + 1
  else quotient

/-- The value without what stands behind the point. -/
def truncated (x : Float) : Int :=
  match magnitude x with
  | .finite numerator denominator =>
    let n := Int.ofNat (numerator / denominator)
    if isNegative x then -n else n
  | _ => 0

/-! ## Writing -/

/-- Digits with a point before the last ones of them. -/
def withPoint (places : Nat) (alternate : Bool) (digits : Text) : Text :=
  let digits := List.replicate (places + 1 - digits.length) '0' ++ digits
  let whole := digits.take (digits.length - places)
  if places = 0 then if alternate then whole ++ ['.'] else whole
  else whole ++ '.' :: digits.drop (digits.length - places)

/-- A fraction with so many digits after the point. -/
def fixed (places : Nat) (alternate : Bool) (numerator denominator : Nat) : Text :=
  withPoint places alternate
    (Text.ofNat (roundDiv (numerator * Nat.pow 10 places) denominator))

/-- A fraction rounded to so many digits after a power of ten. -/
def roundAt (exponent : Int) (numerator denominator : Nat) : Nat :=
  if 0 ≤ exponent then roundDiv numerator (denominator * Nat.pow 10 exponent.natAbs)
  else roundDiv (numerator * Nat.pow 10 exponent.natAbs) denominator

/-- The power of ten that the first digit of a fraction stands for. -/
def leadingExponent (numerator denominator : Nat) : Int :=
  if numerator = 0 then 0
  else
    let guess : Int :=
      Int.ofNat (Text.ofNat numerator).length - Int.ofNat (Text.ofNat denominator).length
    let reaches :=
      if 0 ≤ guess then decide (denominator * Nat.pow 10 guess.natAbs ≤ numerator)
      else decide (denominator ≤ numerator * Nat.pow 10 guess.natAbs)
    if reaches then guess else guess - 1

/-- The digits of a fraction, so many after the first one, and the power of ten of that. -/
def leadingDigits (places : Nat) (numerator denominator : Nat) : Nat × Int :=
  let exponent := leadingExponent numerator denominator
  let digits := roundAt (exponent - Int.ofNat places) numerator denominator
  if Nat.pow 10 (places + 1) ≤ digits then (digits / 10, exponent + 1) else (digits, exponent)

/-- An exponent with its sign and two digits at least. -/
def exponentText (letter : Char) (exponent : Int) : Text :=
  let digits := Text.ofNat exponent.natAbs
  letter :: (if exponent < 0 then '-' else '+') :: List.replicate (2 - digits.length) '0' ++ digits

/-- A fraction with one digit before the point and an exponent. -/
def scientific (letter : Char) (places : Nat) (alternate : Bool) (numerator denominator : Nat) :
    Text :=
  let (digits, exponent) := leadingDigits places numerator denominator
  withPoint places alternate (Text.ofNat digits) ++ exponentText letter exponent

/-- Digits without zeros at the end of those after the point. -/
def withoutZeros (text : Text) : Text :=
  if text.contains '.' then
    Text.dropEndWhile (· == '.') (Text.dropEndWhile (· == '0') text)
  else text

/-- A fraction with so many digits in all, in the shorter one of the two forms. -/
def general (letter : Char) (size : Nat) (alternate : Bool) (numerator denominator : Nat) : Text :=
  let size := max 1 size
  let (digits, exponent) := leadingDigits (size - 1) numerator denominator
  let trim := fun text => if alternate then text else withoutZeros text
  if exponent < -4 || Int.ofNat size ≤ exponent then
    trim (withPoint (size - 1) alternate (Text.ofNat digits)) ++ exponentText letter exponent
  else
    let places := (Int.ofNat size - 1 - exponent).toNat
    trim (fixed places alternate numerator denominator)

/-- A value without its sign, in the form of a letter. -/
def shown (letter : Char) (precision : Option Nat) (alternate : Bool) (x : Float) : Text :=
  let isUpper := letter.isUpper
  let places := precision.getD 6
  let text := match magnitude x with
    | .infinite => "inf".toList
    | .undefined => "nan".toList
    | .finite numerator denominator =>
      match letter.toLower with
      | 'f' => fixed places alternate numerator denominator
      | 'e' => scientific 'e' places alternate numerator denominator
      | _ => general 'e' places alternate numerator denominator
  if isUpper then text.map Char.toUpper else text

/-! ## Reading -/

/-- The value of digits before and after a point, times a power of ten. -/
def ofParts (whole fraction : Text) (exponent : Int) : Float :=
  let digits := Arithmetic.ofDigits 10 (whole ++ fraction)
  let exponent := exponent - Int.ofNat fraction.length
  -- Beyond these powers nothing but zero and infinity is left.
  if digits = 0 then 0
  else if 400 < exponent + Int.ofNat (Text.ofNat digits).length then 1 / 0
  else if exponent + Int.ofNat (Text.ofNat digits).length < -400 then 0
  else Float.ofScientific digits (exponent < 0) exponent.natAbs

/-- An exponent at the start of a text, and what follows it. -/
def exponent (text : Text) : Int × Text :=
  match text with
  | e :: rest =>
    let (negative, digits) := match rest with
      | '-' :: digits => (true, digits)
      | '+' :: digits => (false, digits)
      | digits => (false, digits)
    if (e = 'e' || e = 'E') && digits.head?.any Char.isDigit then
      let n := Int.ofNat (Arithmetic.ofDigits 10 (digits.takeWhile Char.isDigit))
      (if negative then -n else n, digits.dropWhile Char.isDigit)
    else (0, text)
  | [] => (0, [])

/-- A number without a sign at the start of a text, and what follows it. -/
def unsigned? (text : Text) : Option (Float × Text) :=
  match text with
  | '0' :: x :: d :: rest =>
    if (x = 'x' || x = 'X') && Arithmetic.digitValue d < 16 then
      let digits := (d :: rest).takeWhile fun c => Arithmetic.digitValue c < 16
      some (Float.ofNat (Arithmetic.ofDigits 16 digits), (d :: rest).drop digits.length)
    else decimal? text
  | text =>
    match (text.take 3).map Char.toLower with
    | ['i', 'n', 'f'] => some (1 / 0, text.drop 3)
    | ['n', 'a', 'n'] => some (0 / 0, text.drop 3)
    | _ => decimal? text
where
  /-- The same for a decimal number. -/
  decimal? (text : Text) : Option (Float × Text) :=
    let whole := text.takeWhile Char.isDigit
    let rest := text.drop whole.length
    let (fraction, rest) := match rest with
      | '.' :: digits =>
        let fraction := digits.takeWhile Char.isDigit
        if whole = [] && fraction = [] then ([], rest) else (fraction, digits.drop fraction.length)
      | rest => ([], rest)
    if whole = [] && fraction = [] then none
    else
      let (power, rest) := exponent rest
      some (ofParts whole fraction power, rest)

/-- The number at the start of a text after blanks, and what follows it. -/
def read? (text : Text) : Option (Float × Text) :=
  match text.dropWhile fun c => c == ' ' || ('\t' ≤ c && c ≤ '\r') with
  | '-' :: rest => (unsigned? rest).map fun (x, rest) => (-x, rest)
  | '+' :: rest => unsigned? rest
  | rest => unsigned? rest

end Marginalia.Shell.Decimal
